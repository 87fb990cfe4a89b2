import Mathlib.Logic.Relator
import Mathlib.Order.Basic
import PageComposer.Proofs.Likeness.Values
import PageComposer.Template.Snapshot

/-!
# Likeness of stores

Two stores are alike along a pairing of their addresses if what they keep at paired addresses is alike.
What is written out of them, and what look-ups open, is then alike too. A new object in both is one more
pair.
-/

namespace PageComposer.Template

open Value (Alike AlikeEntry)

/-- Where a store keeps something. -/
inductive Address where
  | object (id : Nat)
  | activation (n : Nat)
  | context (n : Nat)
  | rendering (n : Nat)
deriving DecidableEq

/-- What a store keeps at an address. -/
inductive Cell where
  | object (o : Object)
  | activation (a : Activation)
  | context (c : Context)
  | rendering (r : Rendering)

/-- The cell shows what it holds when it is written out. -/
def Cell.isOpen : Cell → Bool
  | .object (.list _) | .object (.dict _) | .object (.view ..) | .object (.slice ..)
  | .object (.group ..) | .object (.namespace _) => true
  | _ => false

def Store.cell? (s : Store) : Address → Option Cell
  | .object id => s.objects[id]?.map .object
  | .activation n => s.activations[n]?.map .activation
  | .context n => s.contexts[n]?.map .context
  | .rendering n => s.renderings[n]?.map .rendering

/-- Which addresses of one store stand for which of another. -/
abbrev Pairing := Address → Address → Prop

/-- The numbers of paired objects. -/
def Pairing.objects (ρ : Pairing) (i j : Nat) : Prop :=
  ρ (.object i) (.object j)

/-- When things are alike that templates alone look into. They stay so when more addresses are paired. -/
structure InnerLikeness where
  like : Pairing → Cell → Cell → Prop
  mono {ρ ρ' : Pairing} {c c' : Cell} (hρ : ρ ≤ ρ') (h : like ρ c c') : like ρ' c c'

end PageComposer.Template

namespace PageComposer

open Value (Alike AlikeEntry)

/-- The tables have the same layout, and alike entries in the same slots. -/
structure Table.Alike (pairs : Nat → Nat → Prop) (t t' : Table) : Prop where
  slots : List.Forall₂ (Option.Rel (AlikeEntry pairs)) t.slots.toList t'.slots.toList
  size : t'.size = t.size
  extent : t'.extent = t.extent
  room : t'.room = t.room
  textual : t'.textual = t.textual

theorem Table.Alike.entries {pairs : Nat → Nat → Prop} {t t' : Table} (h : Table.Alike pairs t t') :
    List.Forall₂ (AlikeEntry pairs) t.entries t'.entries :=
  List.rel_filterMap (fun _ _ hslot => hslot) h.slots

theorem Table.Alike.mono {pairs pairs' : Nat → Nat → Prop} {t t' : Table}
    (hpairs : ∀ i j, pairs i j → pairs' i j) (h : Table.Alike pairs t t') :
    Table.Alike pairs' t t' := by
  refine { h with slots := h.slots.imp fun e e' he => ?_ }
  cases he with
  | none => exact .none
  | some he => exact .some ⟨he.1.mono hpairs, he.2.mono hpairs⟩

namespace Template

variable {inner : InnerLikeness} {ρ ρ' : Pairing} {s s' : Store}

/-- What is kept at the two addresses is alike. -/
inductive Cell.Alike (inner : InnerLikeness) (ρ : Pairing) : Cell → Cell → Prop where
  | list {items items' : Array Value}
      (hitems : List.Forall₂ (Value.Alike ρ.objects) items.toList items'.toList) :
      Alike inner ρ (.object (.list items)) (.object (.list items'))
  | dict {t t' : Table} (htable : t.Alike ρ.objects t') :
      Alike inner ρ (.object (.dict t)) (.object (.dict t'))
  | view {id id' : Nat} (part : DictPart) (hid : ρ.objects id id') :
      Alike inner ρ (.object (.view id part)) (.object (.view id' part))
  | slice {start start' stop stop' step step' : Value} (hstart : Value.Alike ρ.objects start start')
      (hstop : Value.Alike ρ.objects stop stop') (hstep : Value.Alike ρ.objects step step') :
      Alike inner ρ (.object (.slice start stop step)) (.object (.slice start' stop' step'))
  | group {key key' items items' : Value} (hkey : Value.Alike ρ.objects key key')
      (hitems : Value.Alike ρ.objects items items') :
      Alike inner ρ (.object (.group key items)) (.object (.group key' items'))
  | namespace {entries entries' : List (Value × Value)}
      (hentries : List.Forall₂ (AlikeEntry ρ.objects) entries entries') :
      Alike inner ρ (.object (.namespace entries)) (.object (.namespace entries'))
  | closed {c c' : Cell} (hc : c.isOpen = false) (hc' : c'.isOpen = false)
      (hlike : inner.like ρ c c') : Alike inner ρ c c'

theorem Cell.Alike.mono {c c' : Cell} (hρ : ρ ≤ ρ') (h : c.Alike inner ρ c') :
    c.Alike inner ρ' c' := by
  have hobjects (i j : Nat) (hij : ρ.objects i j) : ρ'.objects i j := hρ _ _ hij
  cases h with
  | list hitems => exact .list (hitems.imp fun _ _ h => h.mono hobjects)
  | dict htable => exact .dict (htable.mono hobjects)
  | view part hid => exact .view part (hobjects _ _ hid)
  | slice hstart hstop hstep =>
    exact .slice (hstart.mono hobjects) (hstop.mono hobjects) (hstep.mono hobjects)
  | group hkey hitems => exact .group (hkey.mono hobjects) (hitems.mono hobjects)
  | «namespace» hentries =>
    exact .namespace (hentries.imp fun _ _ h => ⟨h.1.mono hobjects, h.2.mono hobjects⟩)
  | closed hc hc' hlike => exact .closed hc hc' (inner.mono hρ hlike)

theorem Cell.Alike.isOpen_eq {c c' : Cell} (h : c.Alike inner ρ c') : c'.isOpen = c.isOpen := by
  cases h with
  | closed hc hc' => rw [hc, hc']
  | _ => rfl

/-- Each address is paired with at most one other, and what is kept at paired addresses is alike. -/
structure Store.Alike (inner : InnerLikeness) (ρ : Pairing) (s s' : Store) : Prop where
  unique : Relator.BiUnique ρ
  cells {p q : Address} (hpq : ρ p q) :
    ∃ c c', s.cell? p = some c ∧ s'.cell? q = some c' ∧ c.Alike inner ρ c'

/-! ## Values that are written out -/

/-- Both fail with one fault, or both return what is related. -/
inductive Likewise {α β : Type} (R : α → β → Prop) : Except Fault α → Except Fault β → Prop where
  | ok {a : α} {b : β} (h : R a b) : Likewise R (.ok a) (.ok b)
  | error (e : Fault) : Likewise R (.error e) (.error e)

namespace Likewise

variable {α β γ δ : Type} {R : α → β → Prop} {S : γ → δ → Prop}

theorem bind {x : Except Fault α} {y : Except Fault β} {f : α → Except Fault γ}
    {g : β → Except Fault δ} (hxy : Likewise R x y) (hfg : ∀ a b, R a b → Likewise S (f a) (g b)) :
    Likewise S (x >>= f) (y >>= g) := by
  cases hxy with
  | ok h => exact hfg _ _ h
  | error e => exact .error e

theorem mapM {f : α → Except Fault γ} {g : β → Except Fault δ}
    (hfg : ∀ a b, R a b → Likewise S (f a) (g b)) {items : List α} {items' : List β}
    (hitems : List.Forall₂ R items items') :
    Likewise (List.Forall₂ S) (items.mapM f) (items'.mapM g) := by
  induction hitems with
  | nil => exact .ok .nil
  | cons hhead _ ih =>
    rw [List.mapM_cons, List.mapM_cons]
    exact (hfg _ _ hhead).bind fun _ _ h => ih.bind fun _ _ hrest => .ok (.cons h hrest)

variable {pairs : Nat → Nat → Prop} {f g : Value → Except Fault Value}

theorem entry (hfg : ∀ v v', Value.Alike pairs v v' → Likewise (Value.Alike pairs) (f v) (g v'))
    (e e' : Value × Value) (he : AlikeEntry pairs e e') :
    Likewise (AlikeEntry pairs) (do return (← f e.1, ← f e.2)) (do return (← g e'.1, ← g e'.2)) :=
  (hfg _ _ he.1).bind fun _ _ hk => (hfg _ _ he.2).bind fun _ _ hv => .ok ⟨hk, hv⟩

end Likewise

theorem Store.snapshotIn_of_isAtom {v : Value} (hv : v.isAtom = true) (path : List Nat) (fuel : Nat) :
    s.snapshotIn path (fuel + 1) v = .ok v := by
  cases v <;> first | rfl | cases hv

theorem Store.snapshotIn_of_closed {id : Nat} (hclosed : (Cell.object (s.object id)).isOpen = false)
    (path : List Nat) (fuel : Nat) (kind label : String) :
    s.snapshotIn path (fuel + 1) (.object id kind label) = .ok (.object id kind label) := by
  unfold Store.snapshotIn
  dsimp only
  generalize s.object id = o at hclosed ⊢
  cases o <;> first | rfl | cases hclosed

theorem Store.opened_of_isAtom {v : Value} (hv : v.isAtom = true) : s.opened v = v := by
  cases v <;> first | rfl | cases hv

theorem Store.opened_of_closed {id : Nat} (hclosed : (Cell.object (s.object id)).isOpen = false)
    (kind label : String) : s.opened (.object id kind label) = .object id kind label := by
  unfold Store.opened Store.objectOf
  dsimp only
  generalize s.object id = o at hclosed ⊢
  cases o <;> first | rfl | cases hclosed

theorem DictPart.of_alike (part : DictPart) {e e' : Value × Value}
    (he : AlikeEntry ρ.objects e e') : Value.Alike ρ.objects (part.of e) (part.of e') := by
  cases part with
  | keys => exact he.1
  | values => exact he.2
  | items => exact .tuple (.cons he.1 (.cons he.2 .nil))

namespace Store.Alike

variable (hs : s.Alike inner ρ s')

include hs

theorem object {i j : Nat} (hij : ρ.objects i j) :
    (Cell.object (s.object i)).Alike inner ρ (.object (s'.object j)) := by
  obtain ⟨c, c', hc, hc', hcell⟩ := hs.cells hij
  obtain ⟨o, ho, rfl⟩ := Option.map_eq_some_iff.mp hc
  obtain ⟨o', ho', rfl⟩ := Option.map_eq_some_iff.mp hc'
  rw [Store.object, Store.object, ho, ho']
  exact hcell

theorem contains_eq {i j : Nat} (hij : ρ.objects i j) {path path' : List Nat}
    (hpath : List.Forall₂ ρ.objects path path') : path'.contains j = path.contains i := by
  induction hpath with
  | nil => rfl
  | @cons k l path path' hkl _ ih =>
    have hiff : j = l ↔ i = k := by
      constructor
      · rintro rfl
        exact Address.object.inj (hs.unique.1 hij hkl)
      · rintro rfl
        exact Address.object.inj (hs.unique.2 hij hkl)
    have hhead : (j == l) = (i == k) := by
      rw [Bool.eq_iff_iff, beq_iff_eq, beq_iff_eq]
      exact hiff
    rw [List.contains_cons, List.contains_cons, ih, hhead]

/-- An object is written out alike, if what is in it is. -/
theorem snapshotIn_object {id id' fuel : Nat} (hid : ρ.objects id id') {path path' : List Nat}
    (hpath : List.Forall₂ ρ.objects path path')
    (hinside : ∀ v v', Value.Alike ρ.objects v v' → Likewise (Value.Alike ρ.objects)
      (s.snapshotIn (id :: path) fuel v) (s'.snapshotIn (id' :: path') fuel v'))
    (kind label : String) :
    Likewise (Value.Alike ρ.objects) (s.snapshotIn path (fuel + 1) (.object id kind label))
      (s'.snapshotIn path' (fuel + 1) (.object id' kind label)) := by
  have hentry := Likewise.entry hinside
  have hcontains := hs.contains_eq hid hpath
  have hcell := hs.object hid
  cases hopen : (Cell.object (s.object id)).isOpen with
  | false =>
    rw [snapshotIn_of_closed hopen, snapshotIn_of_closed (hcell.isOpen_eq.trans hopen)]
    exact .ok (.object kind label hid)
  | true =>
    unfold Store.snapshotIn
    dsimp only
    generalize s.object id = o at hcell hopen ⊢
    generalize s'.object id' = o' at hcell ⊢
    cases hcell with
    | list hitems =>
      simp only [hcontains]
      split
      · exact .ok (.object _ _ hid)
      · exact (Likewise.mapM hinside hitems).bind fun _ _ h => .ok (.list h)
    | dict htable =>
      simp only [hcontains]
      split
      · exact .ok (.object _ _ hid)
      · refine (Likewise.mapM hentry htable.entries).bind fun _ _ hentries => ?_
        obtain ⟨hkeys, hvalues⟩ := Value.forall₂_alikeEntry_iff.mp hentries
        exact .ok (.dict hkeys hvalues)
    | view part hview =>
      -- The object that is viewed decides: a view of anything but a dictionary shows nothing of it.
      have hviewed := hs.object hview
      dsimp only
      generalize s.object _ = o at hviewed ⊢
      generalize s'.object _ = o' at hviewed ⊢
      cases hviewed with
      | dict htable =>
        simp only [hcontains]
        split
        · exact .ok (.object _ _ hid)
        · have hparts := List.rel_map (fun _ _ he => part.of_alike he) htable.entries
          refine (Likewise.mapM hinside hparts).bind fun _ _ hitems => ?_
          rw [((Value.Alike.list hitems).texts_eq).1]
          exact .ok (.object _ _ hid)
      | closed hc hc' =>
        cases o <;> cases o' <;>
          first
          | exact .ok (.object _ _ hid)
          | exact Bool.noConfusion (hc : true = false)
          | exact Bool.noConfusion (hc' : true = false)
      | _ => exact .ok (.object _ _ hid)
    | slice hstart hstop hstep =>
      refine (Likewise.mapM hinside (.cons hstart (.cons hstop (.cons hstep .nil)))).bind ?_
      intro parts parts' hparts
      rw [((Value.Alike.tuple hparts).texts_eq).1]
      exact .ok (.object _ _ hid)
    | group hkey hitems =>
      refine (hinside _ _ hkey).bind fun _ _ hkey => (hinside _ _ hitems).bind fun _ _ hitems => ?_
      exact .ok (.tuple (.cons hkey (.cons hitems .nil)))
    | «namespace» hentries =>
      simp only [hcontains]
      split
      · exact .ok (.object _ _ hid)
      · refine (Likewise.mapM hentry hentries).bind fun _ _ hentries => ?_
        obtain ⟨hkeys, hvalues⟩ := Value.forall₂_alikeEntry_iff.mp hentries
        rw [((Value.Alike.dict hkeys hvalues).texts_eq).1]
        exact .ok (.object _ _ hid)
    | closed hc =>
      rw [hc] at hopen
      cases hopen

/-- Values that are alike are written out alike. -/
theorem snapshotIn {path path' : List Nat} (hpath : List.Forall₂ ρ.objects path path') (fuel : Nat)
    {v v' : Value} (hv : Value.Alike ρ.objects v v') :
    Likewise (Value.Alike ρ.objects) (s.snapshotIn path fuel v) (s'.snapshotIn path' fuel v') := by
  induction fuel generalizing path path' v v' with
  | zero => exact .error _
  | succ fuel ih =>
    have hparts (u u' : Value) (hu : Value.Alike ρ.objects u u') :
        Likewise (Value.Alike ρ.objects) (s.snapshotIn path fuel u) (s'.snapshotIn path' fuel u') :=
      ih hpath hu
    have hentry := Likewise.entry hparts
    cases hv with
    | atom hatom =>
      rw [snapshotIn_of_isAtom hatom, snapshotIn_of_isAtom hatom]
      exact .ok (.atom hatom)
    | list hitems => exact (Likewise.mapM hparts hitems).bind fun _ _ h => .ok (.list h)
    | tuple hitems => exact (Likewise.mapM hparts hitems).bind fun _ _ h => .ok (.tuple h)
    | dict hkeys hvalues =>
      refine (Likewise.mapM hentry (Value.forall₂_alikeEntry_iff.mpr ⟨hkeys, hvalues⟩)).bind ?_
      intro entries entries' hentries
      obtain ⟨hkeys, hvalues⟩ := Value.forall₂_alikeEntry_iff.mp hentries
      exact .ok (.dict hkeys hvalues)
    | success hu => exact (hparts _ _ hu).bind fun _ _ h => .ok (.success h)
    | failure hu => exact (hparts _ _ hu).bind fun _ _ h => .ok (.failure h)
    | undefined problem hname => exact .ok (.undefined problem hname)
    | method name hself => exact .ok (.method name hself)
    | nan hmark => exact .ok (.nan hmark)
    | object kind label hid =>
      exact hs.snapshotIn_object hid hpath (fun _ _ h => ih (.cons hid hpath) h) kind label

theorem snapshot {v v' : Value} (hv : Value.Alike ρ.objects v v') :
    Likewise (Value.Alike ρ.objects) (s.snapshot v) (s'.snapshot v') :=
  hs.snapshotIn .nil layerLimit hv

/-- Values that are alike have alike outermost layers. -/
theorem opened {v v' : Value} (hv : Value.Alike ρ.objects v v') :
    Value.Alike ρ.objects (s.opened v) (s'.opened v') := by
  cases hv with
  | atom hatom =>
    rw [opened_of_isAtom hatom, opened_of_isAtom hatom]
    exact .atom hatom
  | list hitems => exact .list hitems
  | tuple hitems => exact .tuple hitems
  | dict hkeys hvalues => exact .dict hkeys hvalues
  | success hu => exact .success hu
  | failure hu => exact .failure hu
  | undefined problem hname => exact .undefined problem hname
  | method name hself => exact .method name hself
  | nan hmark => exact .nan hmark
  | @object id id' kind label hid =>
    have hcell := hs.object hid
    cases hopen : (Cell.object (s.object id)).isOpen with
    | false =>
      rw [opened_of_closed hopen, opened_of_closed (hcell.isOpen_eq.trans hopen)]
      exact .object kind label hid
    | true =>
      unfold Store.opened Store.objectOf
      dsimp only
      generalize s.object id = o at hcell hopen ⊢
      generalize s'.object id' = o' at hcell ⊢
      cases hcell with
      | list hitems => exact .list hitems
      | dict htable =>
        obtain ⟨hkeys, hvalues⟩ := Value.forall₂_alikeEntry_iff.mp htable.entries
        exact .dict hkeys hvalues
      | group hkey hitems => exact .tuple (.cons hkey (.cons hitems .nil))
      | closed hc =>
        rw [hc] at hopen
        cases hopen
      | _ => exact .object kind label hid

end Store.Alike

/-! ## New objects -/

/-- One more pair of addresses. -/
def Pairing.add (ρ : Pairing) (p q : Address) : Pairing :=
  fun a b => ρ a b ∨ a = p ∧ b = q

theorem Pairing.le_add (ρ : Pairing) (p q : Address) : ρ ≤ ρ.add p q :=
  fun _ _ h => .inl h

theorem Store.cell?_newObject (s : Store) (o : Object) (p : Address) :
    ((newObject o).run s).2.cell? p =
      if p = .object s.objects.size then some (.object o) else s.cell? p := by
  cases p with
  | object id =>
    change (s.objects.push o)[id]?.map Cell.object = _
    rw [Array.getElem?_push]
    by_cases hid : id = s.objects.size
    · simp [hid]
    · simp [hid, Store.cell?]
  | _ => rfl

/-- A new store has nothing but the object for what is missing. -/
theorem Store.cell?_new (p : Address) :
    ({} : Store).cell? p = if p = .object 0 then some (.object .plain) else none := by
  cases p with
  | object id => cases id <;> simp [Store.cell?]
  | _ => simp [Store.cell?]

theorem Store.cell?_fresh (s : Store) : s.cell? (.object s.objects.size) = none := by
  simp [Store.cell?]

/-- Objects that are made in both stores are paired, if they are alike. -/
theorem Store.Alike.newObject (hs : s.Alike inner ρ s') {o o' : Object}
    (ho : (Cell.object o).Alike inner ρ (.object o')) :
    ((Store.newObject o).run s).2.Alike inner
      (ρ.add (.object s.objects.size) (.object s'.objects.size)) ((Store.newObject o').run s').2 := by
  have hfresh (q : Address) : ¬ρ (.object s.objects.size) q := by
    intro hq
    obtain ⟨c, -, hc, -⟩ := hs.cells hq
    rw [s.cell?_fresh] at hc
    cases hc
  have hfresh' (p : Address) : ¬ρ p (.object s'.objects.size) := by
    intro hp
    obtain ⟨-, c', -, hc', -⟩ := hs.cells hp
    rw [s'.cell?_fresh] at hc'
    cases hc'
  have hle := ρ.le_add (.object s.objects.size) (.object s'.objects.size)
  refine ⟨⟨?_, ?_⟩, ?_⟩
  · rintro p p' q (hp | ⟨rfl, rfl⟩) (hp' | ⟨rfl, hq⟩)
    · exact hs.unique.1 hp hp'
    · subst hq
      exact absurd hp (hfresh' p)
    · exact absurd hp' (hfresh' p')
    · rfl
  · rintro p q q' (hq | ⟨rfl, rfl⟩) (hq' | ⟨hp, rfl⟩)
    · exact hs.unique.2 hq hq'
    · subst hp
      exact absurd hq (hfresh q)
    · exact absurd hq' (hfresh q')
    · rfl
  · rintro p q (hpq | ⟨rfl, rfl⟩)
    · obtain ⟨c, c', hc, hc', hcell⟩ := hs.cells hpq
      refine ⟨c, c', ?_, ?_, hcell.mono hle⟩
      · rw [Store.cell?_newObject, if_neg, hc]
        rintro rfl
        exact hfresh q hpq
      · rw [Store.cell?_newObject, if_neg, hc']
        rintro rfl
        exact hfresh' p hpq
    · refine ⟨.object o, .object o', ?_, ?_, ho.mono hle⟩
      · rw [Store.cell?_newObject, if_pos rfl]
      · rw [Store.cell?_newObject, if_pos rfl]

end Template

end PageComposer
