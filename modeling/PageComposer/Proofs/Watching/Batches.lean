import Mathlib.Data.Finset.Basic
import PageComposer.Proofs.Files.Rewriting
import Mathlib.Data.List.Dedup
import Mathlib.Data.Finset.Filter
import PageComposer.Proofs.Log.Routine
import PageComposer.Proofs.Registration.Problems

/-!
# Batches of changes

A batch is a set of changes. The files that it asks for are reloaded one after the other, in ascending
order of their paths, whatever order the set is listed in. A reload that fails with an error is logged
and the next one follows; only what is no error ends the batch before its end.
-/

namespace PageComposer

variable {τ κ : Type}

/-! ## What a batch asks for -/

namespace Batch

/-- The paths of the changes that ask for a reload, in the order of the reloads. -/
def asked (b : Batch) : List String :=
  (b.sorted.filter fun c => reloads c.1 c.2).map Prod.snd

theorem asked_pairwise (b : Batch) : b.asked.Pairwise (· ≤ ·) := by
  have hsorted : b.sorted.Pairwise fun x y => decide (x.2 ≤ y.2) = true := by
    refine List.pairwise_mergeSort (fun x y z hxy hyz => ?_) (fun x y => ?_) _
    · simp only [decide_eq_true_eq] at hxy hyz ⊢
      exact String.le_trans hxy hyz
    · simpa using String.le_total x.2 y.2
  have hpaths := (hsorted.filter fun c => reloads c.1 c.2).imp fun h => of_decide_eq_true h
  exact List.pairwise_map.mpr hpaths

private theorem nodup_eraseDups {α : Type} [BEq α] [LawfulBEq α] : (l : List α) → l.eraseDups.Nodup
  | [] => by simp
  | a :: rest => by
    rw [List.eraseDups_cons, List.nodup_cons]
    exact ⟨by simp [List.mem_eraseDups], nodup_eraseDups _⟩
termination_by l => l.length
decreasing_by exact Nat.lt_succ_of_le (List.length_filter_le _ _)

/-- A batch asks for one reload for each of its changes that leaves a component file in place, and for
no other. -/
theorem asked_eq (b : Batch) :
    (b.asked : Multiset String) =
      (b.toFinset.filter fun c => c.1 ≠ .deleted ∧ c.2.endsWith ".py").val.map Prod.snd := by
  have hsame : b.sorted.Perm b.dedup := by
    refine (List.mergeSort_perm _ _).trans ?_
    refine (List.perm_ext_iff_of_nodup (nodup_eraseDups b) (List.nodup_dedup b)).mpr fun c => ?_
    rw [List.mem_eraseDups, List.mem_dedup]
  have hasks : (b.sorted.filter fun c => reloads c.1 c.2).Perm
      (b.dedup.filter fun c => decide (c.1 ≠ .deleted ∧ c.2.endsWith ".py")) := by
    have hreloads : (fun c : Change × String => reloads c.1 c.2) =
        fun c => decide (c.1 ≠ .deleted ∧ c.2.endsWith ".py") := by
      funext c
      simp [reloads, Bool.decide_and]
    rw [hreloads]
    exact hsame.filter _
  rw [Finset.filter_val, List.toFinset_val, Multiset.filter_coe, Multiset.map_coe]
  exact Multiset.coe_eq_coe.mpr (hasks.map Prod.snd)

/-- Batches with the same changes ask for the same reloads in the same order. -/
theorem asked_congr {b b' : Batch} (hsame : ∀ c, c ∈ b ↔ c ∈ b') : b.asked = b'.asked := by
  have hsets : b.toFinset = b'.toFinset := by
    ext c
    simpa using hsame c
  have hperm : b.asked.Perm b'.asked := by
    rw [← Multiset.coe_eq_coe, asked_eq, asked_eq, hsets]
  exact hperm.eq_of_pairwise (fun _ _ _ _ => String.le_antisymm) b.asked_pairwise b'.asked_pairwise

/-- A batch of two different changes that both ask for a reload, listed in the order of their paths. -/
theorem asked_pair {c d : Change} {p q : String} (hne : (c, p) ≠ (d, q)) (hle : p ≤ q)
    (hc : reloads c p = true) (hd : reloads d q = true) : Batch.asked [(c, p), (d, q)] = [p, q] := by
  have hdistinct : [(c, p), (d, q)].eraseDups = [(c, p), (d, q)] := by
    simp [List.eraseDups_cons, hne.symm]
  have hsorted : Batch.sorted [(c, p), (d, q)] = [(c, p), (d, q)] := by
    rw [Batch.sorted, hdistinct]
    exact List.mergeSort_of_pairwise (by simp [hle])
  simp [Batch.asked, hsorted, hc, hd]

end Batch

/-! ## Reloading one file after the other -/

/-- A reload leaves it to others to log that it has failed. -/
theorem reload_logs (path : Path) (w : World τ κ) :
    ((reload path).on w).2.eventCount "component_reload_failed" =
      w.eventCount "component_reload_failed" := by
  have hothers : ∀ name ∈ registrationEvents, name ≠ "component_reload_failed" := by decide
  exact (reload_routine hothers path w).eventCount (by simp)


/-- The event about a reload that has failed. -/
def World.reloadFailed (w : World τ κ) (path message : String) : World τ κ :=
  w.logged .error "component_reload_failed"
    [("path", .str path), ("error", .str message), ("exc_info", .bool true)]

/-- Files are reloaded one after the other. A reload that fails with an error is logged, and the next
one follows; one that fails with something else is the last. `failures` of them have been logged. -/
inductive ReloadsAll : List String → World τ κ → Nat → Except Fault Unit → World τ κ → Prop where
  | none (w) : ReloadsAll [] w 0 (.ok ()) w
  | done {path paths w answer w₁ failures o w'}
      (hreload : (reload (Path.ofText path)).on w = (.ok answer, w₁))
      (hrest : ReloadsAll paths w₁ failures o w') : ReloadsAll (path :: paths) w failures o w'
  | failed {path paths w e message w₁ failures o w'}
      (hreload : (reload (Path.ofText path)).on w = (.error e, w₁)) (herror : e.isError = true)
      (hmessage : e.shownMessage = .ok message)
      (hrest : ReloadsAll paths (w₁.reloadFailed path message) failures o w') :
      ReloadsAll (path :: paths) w (failures + 1) o w'
  | ended {path paths w e w'} (hreload : (reload (Path.ofText path)).on w = (.error e, w'))
      (hending : e.isError = false) : ReloadsAll (path :: paths) w 0 (.error e) w'

namespace Files

/-- The errors that component files raise while they are imported have texts. -/
def RaiseTexts (files : Files) : Prop :=
  ∀ name content e, files.held.get? name = some content → content.source = .raises e →
    e.isError = true → ∃ message, e.shownMessage = .ok message

theorem get?_of_find {files : Files} {path : Path} {content : FileContent}
    (hfind : files.find path = .ok content) : ∃ name, files.held.get? name = some content := by
  obtain ⟨there, -, hheld, -⟩ := walk_replaced (find_eq_ok_iff.mp hfind).2
  exact ⟨_, hheld⟩

/-- What an import raises, a file raises. -/
theorem get?_of_raises {files : Files} {path : Path} {e : Fault}
    (himport : importedFrom files path = .ok (.raises e)) :
    ∃ name content, files.held.get? name = some content ∧ content.source = .raises e := by
  unfold importedFrom readModule at himport
  cases hfind : files.find path with
  | error problem =>
    rw [hfind] at himport
    cases himport
  | ok content =>
    obtain ⟨name, hname⟩ := get?_of_find hfind
    refine ⟨name, content, hname, ?_⟩
    obtain ⟨bytes, source⟩ := content
    rw [hfind] at himport
    cases source with
    | raises problem =>
      cases himport
      rfl
    | exports name config =>
      cases config with
      | none => cases himport
      | some config =>
        change (config.check Config.componentKind).bind _ = _ at himport
        cases hcheck : config.check Config.componentKind with
        | error problem =>
          rw [hcheck] at himport
          cases himport
        | ok _ =>
          rw [hcheck] at himport
          cases himport

end Files

theorem applyChange_on (change : Change) (path : String) (w : World τ κ) :
    (applyChange change path).on w =
      if reloads change path then
        match (reload (Path.ofText path)).on w with
        | (.ok _, w') => (.ok (), w')
        | (.error e, w') =>
          if e.isError then
            match e.shownMessage with
            | .ok message => (.ok (), w'.reloadFailed path message)
            | .error e' => (.error e', w')
          else (.error e, w')
      else (.ok (), w) := by
  unfold applyChange
  split
  · rw [Update.on_tryCatch, Update.on_bind]
    generalize (reload (Path.ofText path)).on w = reloaded
    obtain ⟨o, w'⟩ := reloaded
    cases o with
    | ok answer => rfl
    | error e =>
      simp only
      cases e.isError with
      | false => rfl
      | true =>
        simp only [if_true, Update.on_bind, Update.on_liftM]
        cases e.shownMessage <;> rfl
  · rfl

theorem reload_files (path : Path) (w : World τ κ) : ((reload path).on w).2.files = w.files := by
  obtain ⟨log, modules, hreload⟩ := reload_state path w
  rw [hreload]
  exact w.reloaded_files path

theorem foldl_reloaded_with (paths : List Path) (w : World τ κ) (log : List Log.Event)
    (modules : Keyed LoadedModule) :
    paths.foldl World.reloaded { w with log := log, modules := modules } =
      { paths.foldl World.reloaded w with log := log, modules := modules } := by
  induction paths generalizing w with
  | nil => rfl
  | cons path paths ih => rw [List.foldl_cons, World.reloaded_with, ih, List.foldl_cons]

namespace ReloadsAll

variable {paths : List String} {w w' : World τ κ} {failures : Nat} {o : Except Fault Unit}

/-- A failure is logged once. -/
theorem eventCount (h : ReloadsAll paths w failures o w') :
    w'.eventCount "component_reload_failed" =
      w.eventCount "component_reload_failed" + failures := by
  induction h with
  | none => rfl
  | @done path paths w answer w₁ failures o w' hreload _ ih =>
    have hlogs := reload_logs (Path.ofText path) w
    rw [hreload] at hlogs
    rw [ih, hlogs]
  | @failed path paths w e message w₁ failures o w' hreload _ _ _ ih =>
    have hlogs := reload_logs (Path.ofText path) w
    rw [hreload] at hlogs
    rw [ih, World.reloadFailed, World.eventCount_logged, if_pos rfl, hlogs]
    omega
  | @ended path paths w e w' hreload _ =>
    have hlogs := reload_logs (Path.ofText path) w
    rw [hreload] at hlogs
    exact hlogs

theorem files (h : ReloadsAll paths w failures o w') : w'.files = w.files := by
  induction h with
  | none => rfl
  | @done path _ w _ _ _ _ _ hreload _ ih => rw [ih, ← reload_files (Path.ofText path) w, hreload]
  | @failed path _ w _ _ _ _ _ _ hreload _ _ _ ih =>
    rw [ih, ← reload_files (Path.ofText path) w, hreload]
    rfl
  | @ended path _ w _ _ hreload _ => rw [← reload_files (Path.ofText path) w, hreload]

theorem ending {e : Fault} (h : ReloadsAll paths w failures (.error e) w') : e.isError = false := by
  generalize ho : Except.error e = o at h
  induction h with
  | none => cases ho
  | done _ _ ih | failed _ _ _ _ ih => exact ih ho
  | ended _ hending =>
    cases ho
    exact hending

/-- Reloads that go on to the last leave what all files offer installed one after the other. -/
theorem installs (h : ReloadsAll paths w failures (.ok ()) w') :
    ∃ log modules, w' = { (paths.map Path.ofText).foldl World.reloaded w with
      log := log, modules := modules } := by
  generalize ho : Except.ok () = o at h
  induction h with
  | none w => exact ⟨w.log, w.modules, rfl⟩
  | @done path paths w answer w₁ _ _ w' hreload _ ih =>
    obtain ⟨log₁, modules₁, hstate⟩ := reload_state (Path.ofText path) w
    obtain rfl : w₁ = _ := (congrArg Prod.snd hreload).symm.trans hstate
    obtain ⟨log, modules, hrest⟩ := ih ho
    rw [foldl_reloaded_with] at hrest
    exact ⟨log, modules, hrest⟩
  | @failed path paths w e message w₁ _ _ w' hreload _ _ _ ih =>
    obtain ⟨log₁, modules₁, hstate⟩ := reload_state (Path.ofText path) w
    obtain rfl : w₁ = _ := (congrArg Prod.snd hreload).symm.trans hstate
    obtain ⟨log, modules, hrest⟩ := ih ho
    rw [World.reloadFailed, World.logged, foldl_reloaded_with, foldl_reloaded_with] at hrest
    exact ⟨log, modules, hrest⟩
  | ended => cases ho

/-- Files can be reloaded one after the other, if the errors that they raise have texts. -/
theorem exists_of_texts {w : World τ κ}
    (htexts : ∀ path ∈ paths, ∀ place e, w.files.resolve (Path.ofText path) = .ok place →
      importedFrom w.files place = .ok (.raises e) → e.isError = true →
      ∃ message, e.shownMessage = .ok message) :
    ∃ failures o w', ReloadsAll paths w failures o w' := by
  induction paths generalizing w with
  | nil => exact ⟨0, .ok (), w, .none w⟩
  | cons path paths ih =>
    cases hreload : (reload (Path.ofText path)).on w with | mk answer w₁ =>
    have hfiles : w₁.files = w.files := by rw [← reload_files (Path.ofText path) w, hreload]
    have hlater : ∀ w₂ : World τ κ, w₂.files = w₁.files →
        ∃ failures o w', ReloadsAll paths w₂ failures o w' := by
      intro w₂ hsame
      refine ih fun p hp place e hplace himport => ?_
      rw [hsame, hfiles] at hplace himport
      exact htexts p (List.mem_cons_of_mem _ hp) place e hplace himport
    cases answer with
    | ok answer =>
      obtain ⟨failures, o, w', hrest⟩ := hlater w₁ rfl
      exact ⟨failures, o, w', .done hreload hrest⟩
    | error e =>
      cases herror : e.isError with
      | false => exact ⟨0, _, w₁, .ended hreload herror⟩
      | true =>
        obtain ⟨message, hmessage⟩ : ∃ message, e.shownMessage = .ok message := by
          obtain ⟨-, hordinary⟩ | ⟨place, hplace, hraises⟩ := reload_error hreload
          · exact hordinary
          · exact htexts path List.mem_cons_self place e hplace hraises herror
        obtain ⟨failures, o, w', hrest⟩ := hlater (w₁.reloadFailed path message) rfl
        exact ⟨failures + 1, o, w', .failed hreload herror hmessage hrest⟩

end ReloadsAll

/-- The changes of a batch are applied by reloading the files that they ask for one after the other. -/
theorem applyChanges_of_reloadsAll {w w' : World τ κ} {failures : Nat} {o : Except Fault Unit}
    {b : Batch} (h : ReloadsAll ((b.filter fun c => reloads c.1 c.2).map Prod.snd) w failures o w') :
    (applyChanges b).on w = (o, w') := by
  induction b generalizing w failures with
  | nil =>
    cases h
    rfl
  | cons entry b ih =>
    obtain ⟨change, path⟩ := entry
    rw [applyChanges, Update.on_bind, applyChange_on]
    cases hasks : reloads change path with
    | false =>
      rw [List.filter_cons_of_neg (by simp [hasks])] at h
      exact ih h
    | true =>
      rw [List.filter_cons_of_pos (by simp [hasks]), List.map_cons] at h
      cases h with
      | done hreload hrest =>
        rw [if_pos rfl, hreload]
        exact ih hrest
      | failed hreload herror hmessage hrest =>
        simp only [if_true, hreload, herror, hmessage]
        exact ih hrest
      | ended hreload hending => simp only [if_true, hreload, hending, Bool.false_eq_true, if_false]

theorem applyBatch_of_reloadsAll {w w' : World τ κ} {failures : Nat} {o : Except Fault Unit}
    {b : Batch} (h : ReloadsAll b.asked w failures o w') : (applyBatch b).on w = (o, w') :=
  applyChanges_of_reloadsAll h

/-- The files that a batch asks for are reloaded one after the other, if errors that they raise have
texts. -/
theorem applyBatch_on_iff {w w' : World τ κ} {o : Except Fault Unit} (b : Batch)
    (htexts : w.files.RaiseTexts) :
    (applyBatch b).on w = (o, w') ↔ ∃ failures, ReloadsAll b.asked w failures o w' := by
  constructor
  · intro happly
    obtain ⟨failures, o', w'', hreloads⟩ : ∃ failures o' w'', ReloadsAll b.asked w failures o' w'' := by
      refine ReloadsAll.exists_of_texts fun path _ place e _ hraises herror => ?_
      obtain ⟨name, content, hname, hsource⟩ := Files.get?_of_raises hraises
      exact htexts name content e hname hsource herror
    rw [applyBatch_of_reloadsAll hreloads] at happly
    cases happly
    exact ⟨failures, hreloads⟩
  · rintro ⟨failures, hreloads⟩
    exact applyBatch_of_reloadsAll hreloads

end PageComposer
