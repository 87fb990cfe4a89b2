import PageComposer.Proofs.Registration.Reloads

/-!
# What reloads fail with

A component file may raise anything while it is imported. Whatever else a reload fails with is an error
whose message has a text, so it can be logged.
-/

namespace PageComposer

variable {τ κ : Type} {w : World τ κ} {e : Fault} {name : String} {c : Config}

/-- The fault is an error, and its message has a text. -/
def Fault.Ordinary (e : Fault) : Prop :=
  e.isError = true ∧ ∃ text, e.shownMessage = .ok text

/-- The computation fails only with faults that have a property. -/
def FailsAs {α : Type} (P : Fault → Prop) (x : Except Fault α) : Prop :=
  ∀ e, x = .error e → P e

namespace FailsAs

variable {α β : Type} {P Q : Fault → Prop}

theorem ok (a : α) : FailsAs P (.ok a : Except Fault α) := by
  rintro e ⟨⟩

theorem error (h : P e) : FailsAs P (.error e : Except Fault α) := by
  rintro _ ⟨⟩
  exact h

theorem bind {x : Except Fault α} {f : α → Except Fault β} (hx : FailsAs P x)
    (hf : ∀ a, x = .ok a → FailsAs P (f a)) : FailsAs P (x.bind f) := by
  cases x with
  | error e =>
    rintro _ ⟨⟩
    exact hx e rfl
  | ok a => exact hf a rfl

theorem map {x : Except Fault α} {f : α → β} (hx : FailsAs P x) : FailsAs P (x.map f) := by
  cases x with
  | error e =>
    rintro _ ⟨⟩
    exact hx e rfl
  | ok a => exact ok _

theorem mono {x : Except Fault α} (h : ∀ e, P e → Q e) (hx : FailsAs P x) : FailsAs Q x :=
  fun e he => h e (hx e he)

end FailsAs

/-- The computation fails only with errors that have texts. -/
abbrev FailsOrdinarily {α : Type} (x : Except Fault α) : Prop :=
  FailsAs Fault.Ordinary x

namespace Config

/-- What can be wrong with a config: with its keys, with its form, or with a value under a key. -/
inductive Problem : Fault → Prop where
  | unexpectedField (kind key : String) : Problem (.unexpectedField kind key)
  | repeatedSelf (kind : String) : Problem (.repeatedSelf kind)
  | missingRender (kind : String) : Problem (.missingRender kind)
  | unknownKeys (kind : String) (keys : List String) : Problem (.unknownKeys kind keys)
  | unhashable (typeName : String) : Problem (.unhashable typeName)
  | notIterable (typeName : String) : Problem (.notIterable typeName)
  | notMapping (typeName : String) : Problem (.notMapping typeName)
  | notPair (message : String) : Problem (.valueProblem message)
  | noLength (typeName : String) : Problem (.noLength typeName)

theorem Problem.ordinary (h : Problem e) : e.Ordinary := by
  cases h <;> exact ⟨rfl, _, rfl⟩

theorem Problem.ne_notFound (h : Problem e) (name : Value) (registry : String) :
    e ≠ .notFound name registry := by
  cases h <;> exact nofun

theorem build_fails (kind : String) (fields : List (Value × Value)) :
    FailsAs Problem (build kind fields) := by
  unfold build
  split
  · split
    · exact .error (.repeatedSelf _)
    · exact .error (.unexpectedField _ _)
  · split
    · exact .error (.missingRender _)
    · exact .ok _

theorem keysOf_fails (value : Value) : FailsAs Problem (keysOf value) := by
  unfold keysOf
  split
  · exact .ok _
  · split
    · exact .error (.unhashable _)
    · exact .ok _
  · exact .ok _
  · exact .error (.notIterable _)

theorem entriesOf_fails (value : Value) : FailsAs Problem (entriesOf value) := by
  unfold entriesOf
  split
  · exact .ok _
  · exact .error (.notPair _)
  · exact .ok _
  · exact .ok _
  · exact .error (.notMapping _)

theorem knownFields_fails (kind : String) (value : Value) :
    FailsAs Problem (knownFields kind value) := by
  refine .bind (keysOf_fails value) fun keys _ => ?_
  change FailsAs Problem (ite _ _ _)
  split
  · refine .bind (entriesOf_fails value) fun entries _ => ?_
    split <;> exact .ok _
  · exact .error (.unknownKeys _ _)

theorem ofSource_fails (kind : String) (source : ConfigSource) :
    FailsAs Problem (ofSource kind source) := by
  cases source with
  | built c => exact .ok c
  | mapping value => exact .bind (knownFields_fails _ _) fun _ _ => build_fails _ _
  | iterating entries transforms problem =>
    exact .bind (knownFields_fails _ _) fun _ _ => .bind (build_fails _ _) fun _ _ => .ok _

/-- A draft stands for a config object or for a mapping of values. -/
theorem source_cases {kind : String} {draft : ConfigDraft} {source : ConfigSource}
    (hsource : draft.source kind = .ok source) :
    (∃ entries c, build kind entries = .ok c ∧ source = .built c) ∨
      ∃ value, source = .mapping value := by
  unfold ConfigDraft.source at hsource
  split at hsource
  · rename_i entries _ _
    cases hbuild : build kind entries with
    | error e =>
      rw [hbuild] at hsource
      cases hsource
    | ok c =>
      rw [hbuild] at hsource
      cases hsource
      exact .inl ⟨entries, c, hbuild, rfl⟩
  · cases hsource
    exact .inr ⟨_, rfl⟩

theorem ofDraft_fails (draft : ConfigDraft) : FailsAs Problem (ofDraft draft) := by
  refine .bind ?_ fun source _ => ofSource_fails _ source
  unfold ConfigDraft.source
  split
  · exact .map (build_fails _ _)
  · exact .ok _

/-- The middleware of a config that is written in a file is a value. -/
theorem build_middleware {kind : String} {fields : List (Value × Value)} {c : Config}
    (hbuild : build kind fields = .ok c) : ∃ v, c.middleware = .value v := by
  unfold build at hbuild
  split at hbuild
  · split at hbuild <;> cases hbuild
  · split at hbuild
    · cases hbuild
    · cases hbuild
      exact ⟨_, rfl⟩

theorem ofDraft_middleware {draft : ConfigDraft} {c : Config} (hdraft : ofDraft draft = .ok c) :
    ∃ v, c.middleware = .value v := by
  unfold ofDraft at hdraft
  cases hsource : draft.source componentKind with
  | error e =>
    rw [hsource] at hdraft
    cases hdraft
  | ok source =>
    rw [hsource] at hdraft
    obtain ⟨entries, built, hbuild, rfl⟩ | ⟨value, rfl⟩ := source_cases hsource
    · obtain rfl : built = c := Except.ok.inj hdraft
      exact build_middleware hbuild
    · change (knownFields componentKind value).bind (build componentKind) = .ok c at hdraft
      cases hknown : knownFields componentKind value with
      | error e =>
        rw [hknown] at hdraft
        cases hdraft
      | ok fields =>
        rw [hknown] at hdraft
        exact build_middleware hdraft

theorem itemsOf_fails (items : Value) : FailsAs Problem (Middleware.itemsOf items) := by
  unfold Middleware.itemsOf
  split
  all_goals first | exact .ok _ | exact .error (.notIterable _)

theorem verdict_fails {c : Config} (hvalue : ∃ v, c.middleware = .value v) :
    FailsAs Problem c.verdict := by
  unfold verdict
  split
  · exact .error (.noLength _)
  · split
    · exact .error (.noLength _)
    · obtain ⟨v, hvalue⟩ := hvalue
      rw [hvalue, Middleware.transforms]
      cases hitems : Middleware.itemsOf v with
      | ok items => exact .ok _
      | error e => exact .error (itemsOf_fails v e hitems)

end Config

namespace Files

variable {files : Files} {path place : Path} {shown : String}

theorem walkParts_failsOrdinarily {next : List String → List String → Except Fault Entry}
    (hnext : ∀ here parts, FailsOrdinarily (next here parts)) (here parts : List String) :
    FailsOrdinarily (files.walkParts shown next here parts) := by
  fun_induction walkParts files shown next here parts with
  | case1 => exact .ok _
  | case2 _ _ ih => exact ih
  | case3 => exact .error ⟨rfl, _, rfl⟩
  | case4 => exact hnext _ _
  | case5 => exact .ok _
  | case6 => exact .error ⟨rfl, _, rfl⟩
  | case7 _ _ _ _ _ _ _ _ _ ih => exact ih
  | case8 => exact .error ⟨rfl, _, rfl⟩

theorem walk_failsOrdinarily (shown : String) (links : Nat) (here parts : List String) :
    FailsOrdinarily (files.walk shown links here parts) := by
  induction links generalizing here parts with
  | zero => exact walkParts_failsOrdinarily (fun _ _ => .error ⟨rfl, _, rfl⟩) here parts
  | succ links ih => exact walkParts_failsOrdinarily ih here parts

theorem find_failsOrdinarily : FailsOrdinarily (files.find path) := by
  unfold find
  split
  · exact .error ⟨rfl, _, rfl⟩
  · have hwalk := files.walk_failsOrdinarily path.text linkLimit [] (files.fromRoot path)
    split
    · exact .ok _
    · exact .error ⟨rfl, _, rfl⟩
    · rename_i herror
      rw [herror] at hwalk
      rintro _ ⟨⟩
      exact hwalk _ rfl

theorem importedFrom_failsOrdinarily : FailsOrdinarily (importedFrom files path) := by
  refine .bind (.bind find_failsOrdinarily fun _ _ => .ok _) fun source _ => ?_
  dsimp only
  split
  · refine .bind ?_ fun _ _ => .ok _
    unfold ConfigDraft.check
    split
    · exact (FailsAs.map (Config.build_fails _ _)).mono fun _ => Config.Problem.ordinary
    · exact .ok _
  · exact .ok _

theorem resolve_failsOrdinarily : FailsOrdinarily (files.resolve path) := by
  unfold resolve
  split
  · exact .error ⟨rfl, _, rfl⟩
  · split
    · exact .ok _
    · exact .error ⟨rfl, _, rfl⟩

/-- Loading a file fails with what the file raises, or with an error that has a text. -/
theorem load_error (hload : files.load path = .error e) :
    e.Ordinary ∨ ∃ place, files.resolve path = .ok place ∧
      importedFrom files place = .ok (.raises e) := by
  unfold load at hload
  split at hload
  · rename_i hplace
    cases hload
    exact .inl (resolve_failsOrdinarily _ hplace)
  · rename_i hplace
    split at hload
    · cases hload
    · rename_i hraises
      cases hload
      exact .inr ⟨_, hplace, hraises⟩
    · rename_i hfails
      cases hload
      exact .inl (importedFrom_failsOrdinarily _ hfails)

end Files

namespace LoadedModule

theorem offer_failsOrdinarily (loaded : LoadedModule) : FailsOrdinarily loaded.offer := by
  unfold offer
  split
  · split
    · exact .ok _
    · exact .map ((Config.ofDraft_fails _).mono fun _ => Config.Problem.ordinary)
  · exact .ok _

theorem verdict_failsOrdinarily {loaded : LoadedModule} (hoffer : loaded.offer = .ok (some (name, c))) :
    FailsOrdinarily c.verdict := by
  unfold offer at hoffer
  split at hoffer
  · rename_i draft _ _
    split at hoffer
    · cases hoffer
    · cases hdraft : Config.ofDraft draft with
      | error e =>
        rw [hdraft] at hoffer
        cases hoffer
      | ok c' =>
        rw [hdraft] at hoffer
        cases hoffer
        exact (Config.verdict_fails (Config.ofDraft_middleware hdraft)).mono fun _ =>
          Config.Problem.ordinary
  · cases hoffer

end LoadedModule

/-- A reload fails with what the file raises, or with an error that has a text. -/
theorem reload_error {path : Path} {w' : World τ κ} (hreload : (reload path).on w = (.error e, w')) :
    e.Ordinary ∨ ∃ place, w.files.resolve path = .ok place ∧
      importedFrom w.files place = .ok (.raises e) := by
  obtain ⟨log, modules, hon⟩ := reload_on path w
  rw [hreload, Files.offer] at hon
  cases hload : w.files.load path with
  | error e' =>
    rw [hload] at hon
    cases hon
    exact Files.load_error hload
  | ok loaded =>
    simp only [hload, Except.bind] at hon
    left
    cases hoffer : loaded.offer with
    | error e' =>
      rw [hoffer] at hon
      cases hon
      exact loaded.offer_failsOrdinarily _ hoffer
    | ok offer =>
      rw [hoffer] at hon
      cases offer with
      | none => cases hon
      | some offered =>
        obtain ⟨name, c⟩ := offered
        have houtcome := congrArg Prod.fst hon
        cases hverdict : c.verdict with
        | ok _ =>
          simp only [hverdict] at houtcome
          cases houtcome
        | error e' =>
          simp only [hverdict] at houtcome
          cases houtcome
          exact LoadedModule.verdict_failsOrdinarily hoffer _ hverdict

end PageComposer
