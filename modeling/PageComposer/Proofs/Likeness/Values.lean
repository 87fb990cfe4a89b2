import Mathlib.Data.List.Forall2
import PageComposer.Fault

/-!
# Likeness of values

Two runs of one computation give the objects that they make different numbers. Values of the two are
alike if they differ in these numbers only, as a pairing of numbers says, and so are faults. What
messages and look-ups see of a value is not affected by them.
-/

namespace PageComposer.Value

variable {pairs pairs' : Nat → Nat → Prop} {v v' : Value}

/-- The value has no parts and is no object. -/
def isAtom : Value → Bool
  | .none | .bool _ | .int _ | .float _ | .complex .. | .str _ | .markup _ | .range .. | .callable _
  | .entry _ | .builtin _ => true
  | _ => false

/-- The values are the same but for the numbers of objects, which are paired. -/
inductive Alike (pairs : Nat → Nat → Prop) : Value → Value → Prop where
  | atom {v : Value} (hatom : v.isAtom = true) : Alike pairs v v
  | list {items items' : List Value} (hitems : List.Forall₂ (Alike pairs) items items') :
      Alike pairs (.list items) (.list items')
  | tuple {items items' : List Value} (hitems : List.Forall₂ (Alike pairs) items items') :
      Alike pairs (.tuple items) (.tuple items')
  | dict {entries entries' : List (Value × Value)}
      (hkeys : List.Forall₂ (Alike pairs) (entries.map Prod.fst) (entries'.map Prod.fst))
      (hvalues : List.Forall₂ (Alike pairs) (entries.map Prod.snd) (entries'.map Prod.snd)) :
      Alike pairs (.dict entries) (.dict entries')
  | success {u u' : Value} (hu : Alike pairs u u') : Alike pairs (.success u) (.success u')
  | failure {u u' : Value} (hu : Alike pairs u u') : Alike pairs (.failure u) (.failure u')
  | undefined {name name' : Value} (problem : String) (hname : Alike pairs name name') :
      Alike pairs (.undefined name problem) (.undefined name' problem)
  | method {self self' : Value} (name : String) (hself : Alike pairs self self') :
      Alike pairs (.method self name) (.method self' name)
  | nan {mark mark' : Nat} (hmark : pairs mark mark') : Alike pairs (.nan mark) (.nan mark')
  | object {id id' : Nat} (kind label : String) (hid : pairs id id') :
      Alike pairs (.object id kind label) (.object id' kind label)

/-- The entries have keys and values that are alike. -/
abbrev AlikeEntry (pairs : Nat → Nat → Prop) (e e' : Value × Value) : Prop :=
  Alike pairs e.1 e'.1 ∧ Alike pairs e.2 e'.2

theorem forall₂_alikeEntry_iff {entries entries' : List (Value × Value)} :
    List.Forall₂ (AlikeEntry pairs) entries entries' ↔
      List.Forall₂ (Alike pairs) (entries.map Prod.fst) (entries'.map Prod.fst) ∧
      List.Forall₂ (Alike pairs) (entries.map Prod.snd) (entries'.map Prod.snd) := by
  simp only [List.forall₂_map_left_iff, List.forall₂_map_right_iff]
  constructor
  · exact fun h => ⟨h.imp fun _ _ he => he.1, h.imp fun _ _ he => he.2⟩
  · rintro ⟨hkeys, hvalues⟩
    induction hkeys with
    | nil => exact .nil
    | cons hkey _ ih =>
      cases hvalues with
      | cons hvalue hvalues => exact .cons ⟨hkey, hvalue⟩ (ih hvalues)

/-- What holds of atoms and passes from parts to wholes holds of values that are alike. -/
@[elab_as_elim]
theorem Alike.induct {P : Value → Value → Prop} (atom : ∀ v : Value, v.isAtom = true → P v v)
    (list : ∀ items items', List.Forall₂ P items items' → P (.list items) (.list items'))
    (tuple : ∀ items items', List.Forall₂ P items items' → P (.tuple items) (.tuple items'))
    (dict : ∀ entries entries', List.Forall₂ P (entries.map Prod.fst) (entries'.map Prod.fst) →
      List.Forall₂ P (entries.map Prod.snd) (entries'.map Prod.snd) →
      P (.dict entries) (.dict entries'))
    (success : ∀ u u', P u u' → P (.success u) (.success u'))
    (failure : ∀ u u', P u u' → P (.failure u) (.failure u'))
    (undefined : ∀ name name' problem, P name name' →
      P (.undefined name problem) (.undefined name' problem))
    (method : ∀ self self' name, Alike pairs self self' → P self self' →
      P (.method self name) (.method self' name))
    (nan : ∀ mark mark', pairs mark mark' → P (.nan mark) (.nan mark'))
    (object : ∀ id id' kind label, pairs id id' → P (.object id kind label) (.object id' kind label))
    (h : Alike pairs v v') : P v v' :=
  Alike.rec
    (fun hatom => atom _ hatom) (fun _ ih => list _ _ ih) (fun _ ih => tuple _ _ ih)
    (fun _ _ ihkeys ihvalues => dict _ _ ihkeys ihvalues) (fun _ ih => success _ _ ih)
    (fun _ ih => failure _ _ ih) (fun problem _ ih => undefined _ _ problem ih)
    (fun name hself ih => method _ _ name hself ih) (fun hmark => nan _ _ hmark)
    (fun kind label hid => object _ _ kind label hid) .nil (fun _ _ hhead htail => .cons hhead htail) h

theorem Alike.mono (hpairs : ∀ i j, pairs i j → pairs' i j) (h : Alike pairs v v') :
    Alike pairs' v v' := by
  refine Alike.induct ?atom ?list ?tuple ?dict ?success ?failure ?undefined ?method ?nan ?object h
  case atom => exact fun v hatom => .atom hatom
  case list => exact fun _ _ ih => .list ih
  case tuple => exact fun _ _ ih => .tuple ih
  case dict => exact fun _ _ ihkeys ihvalues => .dict ihkeys ihvalues
  case success => exact fun _ _ ih => .success ih
  case failure => exact fun _ _ ih => .failure ih
  case undefined => exact fun _ _ problem ih => .undefined problem ih
  case method => exact fun _ _ name _ ih => .method name ih
  case nan => exact fun _ _ hmark => .nan (hpairs _ _ hmark)
  case object => exact fun _ _ kind label hid => .object kind label (hpairs _ _ hid)

/-! ## What is seen of a value -/

theorem Alike.eq_of_isAtom (h : Alike pairs v v') (hatom : v.isAtom = true) : v' = v := by
  cases h <;> first | rfl | cases hatom

theorem Alike.typeName_eq (h : Alike pairs v v') : v'.typeName = v.typeName := by
  cases h with
  | method name hself => cases hself <;> rfl
  | _ => rfl

theorem Alike.text?_eq (h : Alike pairs v v') : v'.text? = v.text? := by
  cases h <;> rfl

/-- What is the same for values that are paired is the same for the lists of them. -/
theorem map_eq_of_forall₂ {α : Type} {f : Value → α} {items items' : List Value}
    (hitems : List.Forall₂ (fun u u' => f u' = f u) items items') : items'.map f = items.map f := by
  induction hitems with
  | nil => rfl
  | cons hhead _ ih => rw [List.map_cons, List.map_cons, hhead, ih]

theorem innerItems_eq_map (items : List Value) : innerItems items = items.map inner := by
  induction items with
  | nil => rfl
  | cons v items ih => rw [innerItems, ih, List.map_cons]

theorem innerEntries_eq (entries : List (Value × Value)) : innerEntries entries =
    List.zipWith (fun k v => k ++ ": " ++ v) ((entries.map Prod.fst).map inner)
      ((entries.map Prod.snd).map inner) := by
  induction entries with
  | nil => rfl
  | cons e entries ih => simp [innerEntries, ih]

/-- The texts of a value do not show the numbers of objects. -/
theorem Alike.texts_eq (h : Alike pairs v v') : v'.inner = v.inner ∧ v'.plain = v.plain := by
  have hmap {items items' : List Value}
      (hitems : List.Forall₂ (fun u u' => inner u' = inner u ∧ plain u' = plain u) items items') :
      items'.map inner = items.map inner :=
    map_eq_of_forall₂ (hitems.imp fun _ _ htexts => htexts.1)
  refine Alike.induct ?atom ?list ?tuple ?dict ?success ?failure ?undefined ?method ?nan ?object h
  case atom => exact fun v _ => ⟨rfl, rfl⟩
  case list =>
    intro items items' hitems
    simp [inner, plain, innerItems_eq_map, hmap hitems]
  case tuple =>
    intro items items' hitems
    have htexts := hmap hitems
    cases hitems with
    | nil => exact ⟨rfl, rfl⟩
    | cons hhead htail =>
      cases htail with
      | nil => simp [inner, plain, hhead.1]
      | cons => simp only [inner, plain, innerItems_eq_map, htexts, and_self]
  case dict =>
    intro entries entries' hkeys hvalues
    simp [inner, plain, innerEntries_eq, hmap hkeys, hmap hvalues]
  case success =>
    intro u u' hu
    simp [inner, plain, hu.2]
  case failure =>
    intro u u' hu
    simp [inner, plain, hu.2]
  case undefined => exact fun _ _ _ _ => ⟨rfl, rfl⟩
  case method =>
    intro self self' name hself _
    have hfunction : functionText (.method self' name) = functionText (.method self name) := by
      have htype := hself.typeName_eq
      cases hself with
      | method => simp only [functionText, htype]
      | _ => rfl
    exact ⟨hfunction, hfunction⟩
  case nan => exact fun _ _ _ => ⟨rfl, rfl⟩
  case object => exact fun _ _ _ _ _ => ⟨rfl, rfl⟩

theorem showableItems_eq_all (items : List Value) :
    showableItems items = (items.map showable).all id := by
  induction items with
  | nil => rfl
  | cons v items ih => rw [showableItems, ih, List.map_cons, List.all_cons, id]

theorem showableEntries_eq_all (entries : List (Value × Value)) : showableEntries entries =
    (((entries.map Prod.fst).map showable).all id && ((entries.map Prod.snd).map showable).all id) := by
  induction entries with
  | nil => rfl
  | cons e entries ih =>
    simp [showableEntries, ih, Bool.and_assoc, Bool.and_left_comm]

theorem Alike.showable_eq (h : Alike pairs v v') : v'.showable = v.showable := by
  refine Alike.induct ?atom ?list ?tuple ?dict ?success ?failure ?undefined ?method ?nan ?object h
  case atom => exact fun v _ => rfl
  case list =>
    intro items items' hitems
    simp only [showable, showableItems_eq_all, map_eq_of_forall₂ hitems]
  case tuple =>
    intro items items' hitems
    simp only [showable, showableItems_eq_all, map_eq_of_forall₂ hitems]
  case dict =>
    intro entries entries' hkeys hvalues
    simp only [showable, showableEntries_eq_all, map_eq_of_forall₂ hkeys, map_eq_of_forall₂ hvalues]
  case success => exact fun u u' hu => hu
  case failure => exact fun u u' hu => hu
  case undefined => exact fun _ _ _ _ => rfl
  case method => exact fun _ _ _ _ _ => rfl
  case nan => exact fun _ _ _ => rfl
  case object => exact fun _ _ _ _ _ => rfl

theorem Alike.shown_eq (h : Alike pairs v v') : v'.shown = v.shown := by
  rw [shown, shown, h.showable_eq, h.texts_eq.2]

theorem Alike.shownInner_eq (h : Alike pairs v v') : v'.shownInner = v.shownInner := by
  rw [shownInner, shownInner, h.showable_eq, h.texts_eq.1]

theorem unhashable?_tuple (items : List Value) :
    (Value.tuple items).unhashable? = (items.map unhashable?).findSome? id := by
  rw [unhashable?]
  simp [List.findSome?_map]

theorem Alike.unhashable?_eq (h : Alike pairs v v') : v'.unhashable? = v.unhashable? := by
  refine Alike.induct ?atom ?list ?tuple ?dict ?success ?failure ?undefined ?method ?nan ?object h
  case atom => exact fun v _ => rfl
  case tuple =>
    intro items items' hitems
    rw [unhashable?_tuple, unhashable?_tuple, map_eq_of_forall₂ hitems]
  all_goals
    intros
    simp_all only [unhashable?]

theorem Alike.equal_str_eq (h : Alike pairs v v') (s : String) :
    v'.equal (.str s) = v.equal (.str s) := by
  cases h <;> rfl

/-- Storing alike values under a name keeps entries alike. -/
theorem forall₂_put {entries entries' : List (Value × Value)} {name : String}
    (hv : Alike pairs v v') (hentries : List.Forall₂ (AlikeEntry pairs) entries entries') :
    List.Forall₂ (AlikeEntry pairs) (put (.str name) v entries) (put (.str name) v' entries') := by
  induction hentries with
  | nil => exact .cons ⟨.atom rfl, hv⟩ .nil
  | @cons e e' rest rest' he hrest ih =>
    obtain ⟨k, u⟩ := e
    obtain ⟨k', u'⟩ := e'
    simp only [put, he.1.equal_str_eq name]
    split
    · exact .cons ⟨he.1, hv⟩ hrest
    · exact .cons he ih

end PageComposer.Value

namespace PageComposer.Fault

variable {pairs pairs' : Nat → Nat → Prop} {e e' : Fault}

/-- The faults are the same but for the numbers of objects, which are paired. -/
inductive Alike (pairs : Nat → Nat → Prop) : Fault → Fault → Prop where
  | same (e : Fault) : Alike pairs e e
  | notFound {name name' : Value} (registry : String) (hname : Value.Alike pairs name name') :
      Alike pairs (.notFound name registry) (.notFound name' registry)
  | rejected {component component' reason reason' : Value}
      (hcomponent : Value.Alike pairs component component')
      (hreason : Value.Alike pairs reason reason') :
      Alike pairs (.rejected component reason) (.rejected component' reason')
  | missingKey {key key' : Value} (hkey : Value.Alike pairs key key') :
      Alike pairs (.missingKey key) (.missingKey key')
  | raised {argument argument' : Value} (kind : String)
      (hargument : Value.Alike pairs argument argument') :
      Alike pairs (.raised kind argument) (.raised kind argument')

theorem Alike.mono (hpairs : ∀ i j, pairs i j → pairs' i j) (h : Alike pairs e e') :
    Alike pairs' e e' := by
  cases h with
  | same e => exact .same e
  | notFound registry hname => exact .notFound registry (hname.mono hpairs)
  | rejected hcomponent hreason => exact .rejected (hcomponent.mono hpairs) (hreason.mono hpairs)
  | missingKey hkey => exact .missingKey (hkey.mono hpairs)
  | raised kind hargument => exact .raised kind (hargument.mono hpairs)

theorem Alike.kind_eq (h : Alike pairs e e') : e'.kind = e.kind := by
  cases h <;> rfl

theorem Alike.isError_eq (h : Alike pairs e e') : e'.isError = e.isError := by
  rw [isError, isError, h.kind_eq]

theorem Alike.leaving (h : Alike pairs e e') : e.leaving.Alike pairs e'.leaving := by
  rw [Fault.leaving, Fault.leaving, h.kind_eq]
  split
  · exact .same _
  · exact h

/-- Faults that are alike say the same. -/
theorem Alike.shownMessage_eq (h : Alike pairs e e') : e'.shownMessage = e.shownMessage := by
  cases h with
  | same e => rfl
  | @notFound name name' registry hname =>
    have hmessage : notFoundMessage name' registry = notFoundMessage name registry := by
      rw [notFoundMessage, notFoundMessage, hname.texts_eq.2]
    exact congrArg Except.ok hmessage
  | @rejected component component' reason reason' hcomponent hreason =>
    have hmessage : rejectedMessage component' reason' = rejectedMessage component reason := by
      unfold rejectedMessage
      rw [hcomponent.texts_eq.2, hreason.texts_eq.2]
    exact congrArg Except.ok hmessage
  | missingKey hkey => exact hkey.shownInner_eq
  | raised kind hargument =>
    rw [shownMessage, shownMessage, hargument.shownInner_eq, hargument.shown_eq]

end PageComposer.Fault
