import PageComposer.Proofs.Proc.Interleaving
import PageComposer.Proofs.Watching.Batches

/-!
# Following a source of changes

A watching task waits for a batch, applies it, and waits for the next one. All of a batch is applied by
one change of the state, so no other task sees a part of it, whatever happens while the task waits, and
wherever it is cancelled.
-/

namespace PageComposer

variable {τ κ : Type}

open Proc (Course Run)

/-! ## Batches that make no difference -/

/-- A change that asks for a reload asks for the same as any other of its path. -/
theorem applyChanges_on_asked (b : Batch) (w : World τ κ) :
    (applyChanges b).on w = (applyChanges
      (((b.filter fun c => reloads c.1 c.2).map Prod.snd).map fun path => (.modified, path))).on w := by
  induction b generalizing w with
  | nil => rfl
  | cons entry b ih =>
    obtain ⟨change, path⟩ := entry
    rw [applyChanges, Update.on_bind, applyChange_on]
    cases hasks : reloads change path with
    | false =>
      rw [List.filter_cons_of_neg (by simp [hasks])]
      exact ih w
    | true =>
      have hpath : reloads .modified path = true := by
        simp only [reloads, Bool.and_eq_true] at hasks ⊢
        exact ⟨rfl, hasks.2⟩
      rw [List.filter_cons_of_pos (by simp [hasks]), List.map_cons, List.map_cons, applyChanges,
        Update.on_bind, applyChange_on, hpath]
      simp only [if_true, ih]

/-- Applying a batch does not depend on the order in which its changes are listed. -/
theorem applyBatch_congr {b b' : Batch} (hsame : ∀ c, c ∈ b ↔ c ∈ b') :
    (applyBatch b : Update τ κ Unit).on = (applyBatch b').on := by
  funext w
  have hasked := Batch.asked_congr hsame
  unfold Batch.asked at hasked
  rw [applyBatch, applyBatch, applyChanges_on_asked, applyChanges_on_asked b'.sorted, hasked]

/-- A source with the batches that another one delivers, rearranged. -/
def Source.rearranged (arrange : Batch → Batch) (source : Source τ κ) : Source τ κ :=
  source.map fun next => next.bind fun b => .done (.ok (b.map arrange))

theorem followSource_rearranged {arrange : Batch → Batch}
    (hsame : ∀ b c, c ∈ arrange b ↔ c ∈ b) (source : Source τ κ) :
    followSource (source.rearranged arrange) = followSource source := by
  induction source with
  | nil => rfl
  | cons next source ih =>
    change (Proc.bind (next.bind _) _ : Act τ κ Unit) = next.bind _
    rw [Proc.bind_assoc]
    congr 1
    funext b
    cases b with
    | none => rfl
    | some b =>
      have happly : (applyBatch (arrange b) : Update τ κ Unit).act = (applyBatch b).act := by
        rw [Update.act, applyBatch_congr (hsame b), Update.act]
      change (applyBatch (arrange b)).act.bind _ = (applyBatch b).act.bind _
      rw [happly]
      congr 1
      funext _
      exact ih

/-! ## The course of a watching task -/

/-- A source delivers batches, and each of them is applied by one change of the state, in which every
file that it asks for is reloaded. `rest` is what remains of the source. -/
inductive Applies : Source τ κ → World τ κ → List (Move (World τ κ)) → List Batch → Source τ κ →
    World τ κ → Prop where
  | none (source s) : Applies source s [] [] source s
  | batch {next source s first b s₁ failures s₂ later bs rest s'}
      (hnext : Run next s first (.ok (some b)) s₁)
      (hreloads : ReloadsAll b.asked s₁ failures (.ok ()) s₂)
      (hrest : Applies source s₂ later bs rest s') :
      Applies (next :: source) s (first ++ .own s₁ s₂ :: later) (b :: bs) rest s'

/-- What has become of following a source. The batches delivered so far have been applied; then the
task waits for the next one, or the source has ended or failed, or a reload in the last batch has failed
with what is no error. -/
inductive Follows (source : Source τ κ) (s : World τ κ) :
    List (Move (World τ κ)) → Option (Except Fault Unit) → World τ κ → Prop where
  | waits {first bs next rest s₁ later p s'} (happlied : Applies source s first bs (next :: rest) s₁)
      (hwaits : Course next s₁ later p s') : Follows source s (first ++ later) none s'
  | exhausted {moves bs s'} (happlied : Applies source s moves bs [] s') :
      Follows source s moves (some (.ok ())) s'
  | ended {first bs next rest s₁ later s'} (happlied : Applies source s first bs (next :: rest) s₁)
      (hends : Run next s₁ later (.ok none) s') : Follows source s (first ++ later) (some (.ok ())) s'
  | failed {first bs next rest s₁ later e s'} (happlied : Applies source s first bs (next :: rest) s₁)
      (hfails : Run next s₁ later (.error e) s') :
      Follows source s (first ++ later) (some (.error e)) s'
  | broken {first bs next rest s₁ later b s₂ failures e s'}
      (happlied : Applies source s first bs (next :: rest) s₁)
      (hnext : Run next s₁ later (.ok (some b)) s₂)
      (hreloads : ReloadsAll b.asked s₂ failures (.error e) s') (hending : e.isError = false) :
      Follows source s (first ++ (later ++ [.own s₂ s'])) (some (.error e)) s'

/-- The state with the event that a watching task has started. -/
def World.watchStarted (w : World τ κ) (directory : Path) : World τ κ :=
  w.logged .info "watch_started" [("directory", .str directory.text)]

def World.watchStopped (w : World τ κ) (directory : Path) : World τ κ :=
  w.logged .info "watch_stopped" [("directory", .str directory.text)]

/-- What has become of a watching task: it is about to start, it follows its source, it has stopped
because there is nothing more to follow, or it has failed. -/
inductive Watches (directory : Path) (source : Source τ κ) (s : World τ κ) :
    List (Move (World τ κ)) → Option (Except Fault Value) → World τ κ → Prop where
  | starts : Watches directory source s [] none s
  | follows {moves o s'} (hfollows : Follows source (s.watchStarted directory) moves o s')
      (hgoing : ∀ e, o ≠ some (.error e)) :
      Watches directory source s (.own s (s.watchStarted directory) :: moves) none s'
  | stopped {moves s'} (hfollows : Follows source (s.watchStarted directory) moves (some (.ok ())) s') :
      Watches directory source s
        (.own s (s.watchStarted directory) :: (moves ++ [.own s' (s'.watchStopped directory)]))
        (some (.ok .none)) (s'.watchStopped directory)
  | failed {moves e s'}
      (hfollows : Follows source (s.watchStarted directory) moves (some (.error e)) s') :
      Watches directory source s (.own s (s.watchStarted directory) :: moves) (some (.error e)) s'

variable {source : Source τ κ} {s s' s₁ s₂ : World τ κ} {moves first later : List (Move (World τ κ))}

/-- What follows on a batch that has been applied. -/
theorem Follows.after {next : Act τ κ (Option Batch)} {b : Batch} {failures : Nat}
    {o : Option (Except Fault Unit)} (hnext : Run next s first (.ok (some b)) s₁)
    (hreloads : ReloadsAll b.asked s₁ failures (.ok ()) s₂)
    (h : Follows source s₂ later o s') :
    Follows (next :: source) s (first ++ .own s₁ s₂ :: later) o s' := by
  cases h with
  | waits happlied hwaits =>
    rw [← List.cons_append, ← List.append_assoc]
    exact .waits (.batch hnext hreloads happlied) hwaits
  | exhausted happlied => exact .exhausted (.batch hnext hreloads happlied)
  | ended happlied hends =>
    rw [← List.cons_append, ← List.append_assoc]
    exact .ended (.batch hnext hreloads happlied) hends
  | failed happlied hfails =>
    rw [← List.cons_append, ← List.append_assoc]
    exact .failed (.batch hnext hreloads happlied) hfails
  | broken happlied hnext' hreloads' hending =>
    rw [← List.cons_append, ← List.append_assoc]
    exact .broken (.batch hnext hreloads happlied) hnext' hreloads' hending

/-- Wherever its own changes begin, the errors that component files raise have texts. -/
def RaiseTextsAlong (moves : List (Move (World τ κ))) : Prop :=
  ∀ a b, Move.own a b ∈ moves → a.files.RaiseTexts

theorem follows_of_course {q : Act τ κ Unit} (hcourse : Course (followSource source) s moves q s')
    (htexts : RaiseTextsAlong moves) : Follows source s moves q.outcome? s' := by
  induction source generalizing s moves with
  | nil =>
    cases hcourse
    exact .exhausted (.none _ _)
  | cons next source ih =>
    obtain ⟨p, rfl, hp⟩ | ⟨a, first, second, s₁, rfl, hnext, hrest⟩ := hcourse.bind_inv
    · -- The task is in its wait, or at the end of it.
      cases p with
      | done o =>
        cases o with
        | error e => exact .failed (.none _ _) hp
        | ok b =>
          cases b with
          | none => exact .ended (.none _ _) hp
          | some b => exact .waits (.none _ _) hp
      | read next => exact .waits (.none _ _) hp
      | write w next => exact .waits (.none _ _) hp
      | pause next => exact .waits (.none _ _) hp
      | join tasks next => exact .waits (.none _ _) hp
      | idle => exact .waits (.none _ _) hp
      | diverge => exact .waits (.none _ _) hp
    · cases a with
      | none =>
        cases hrest
        rw [List.append_nil]
        exact .ended (.none _ _) hnext
      | some b =>
        cases hrest with
        | here =>
          rw [List.append_nil]
          exact .waits (.none _ _) hnext
        | read hrest =>
          cases hrest with
          | here =>
            rw [List.append_nil]
            exact .waits (.none _ _) hnext
          | write hrest =>
            -- The batch has been applied by one change.
            have hspeak : s₁.files.RaiseTexts := htexts _ ((applyBatch b).on s₁).2 (by simp)
            clear hcourse
            generalize happly : (applyBatch b).on s₁ = applied at hrest htexts ⊢
            obtain ⟨o, s₂⟩ := applied
            obtain ⟨failures, hreloads⟩ := (applyBatch_on_iff b hspeak).mp happly
            cases o with
            | ok _ =>
              refine .after hnext hreloads (ih hrest fun a b hmem => htexts a b ?_)
              simp [hmem]
            | error e =>
              cases hrest
              exact .broken (.none _ _) hnext hreloads hreloads.ending

theorem watches_of_course {directory : Path} {q : Act τ κ Value}
    (hcourse : Course (watch directory source) s moves q s') (htexts : RaiseTextsAlong moves) :
    Watches directory source s moves q.outcome? s' := by
  cases hcourse with
  | here => exact .starts
  | read hcourse =>
  cases hcourse with
  | here => exact .starts
  | write hcourse =>
  have htexts' := fun a b hmem => htexts a b (List.mem_cons_of_mem _ hmem)
  change Course ((followSource source).bind _) (s.watchStarted directory) _ q s' at hcourse
  obtain ⟨p, rfl, hp⟩ | ⟨_, first, second, s₁, rfl, hfirst, hrest⟩ := hcourse.bind_inv
  · have hfollows := follows_of_course hp htexts'
    cases p with
    | done o =>
      cases o with
      | ok _ => exact .follows hfollows (by simp [Proc.outcome?])
      | error e => exact .failed hfollows
    | read next => exact .follows hfollows (by simp [Proc.outcome?])
    | write w next => exact .follows hfollows (by simp [Proc.outcome?])
    | pause next => exact .follows hfollows (by simp [Proc.outcome?])
    | join tasks next => exact .follows hfollows (by simp [Proc.outcome?])
    | idle => exact .follows hfollows (by simp [Proc.outcome?])
    | diverge => exact .follows hfollows (by simp [Proc.outcome?])
  · have hfollows := follows_of_course hfirst fun a b hmem => htexts' a b (by simp [hmem])
    cases hrest with
    | here =>
      rw [List.append_nil]
      exact .follows hfollows (by simp [Proc.outcome?])
    | read hrest =>
      cases hrest with
      | here =>
        rw [List.append_nil]
        exact .follows hfollows (by simp [Proc.outcome?])
      | write hrest =>
        cases hrest
        exact .stopped hfollows

/-- Whatever a source delivers, and whatever else happens meanwhile, a watching task applies batch by
batch, each by one change of the state. A batch is applied by one reload for each of its changes that
leaves a component file in place, in ascending order of the paths, however the batch is listed. A reload
that fails with an error is logged once and does not keep the others from being done; then the registries
are what all of them have made of them one after the other. A reload that fails with what is no error
ends the task. Otherwise the task ends only if its source ends or fails, and then all batches have been
applied. Component files whose errors have no texts are left out. -/
theorem watch_applies_whole_batches (directory : Path) (source : Source τ κ) :
    (∀ b : Batch, b.asked.Pairwise (· ≤ ·) ∧ (b.asked : Multiset String) =
      (b.toFinset.filter fun c => c.1 ≠ .deleted ∧ c.2.endsWith ".py").val.map Prod.snd) ∧
    (∀ paths (w w' : World τ κ) failures o, ReloadsAll paths w failures o w' →
      w'.eventCount "component_reload_failed" =
        w.eventCount "component_reload_failed" + failures ∧
      (o = .ok () → ∃ log modules, w' = { (paths.map Path.ofText).foldl World.reloaded w with
        log := log, modules := modules })) ∧
    (∀ arrange, (∀ b c, c ∈ arrange b ↔ c ∈ b) →
      watch directory (source.rearranged arrange) = watch directory source) ∧
    (∀ s moves q s', Course (watch directory source) s moves q s' → RaiseTextsAlong moves →
      Watches directory source s moves q.outcome? s') ∧
    (∀ starts records m changes m', Interleaving starts records m changes m' →
      (∀ t, m.rest t = none) → (∀ c ∈ changes, c.1.files.RaiseTexts) →
      ∀ t q, m'.started t = some (watch directory source) → m'.rest t = some q →
        ∃ s moves w, Watches directory source s moves q.outcome? w ∧
          (Interleaving.ownChanges moves).Sublist changes) := by
  refine ⟨fun b => ⟨b.asked_pairwise, b.asked_eq⟩, ?_, ?_, ?_, ?_⟩
  · intro paths w w' failures o hreloads
    refine ⟨hreloads.eventCount, ?_⟩
    rintro rfl
    exact hreloads.installs
  · intro arrange hsame
    simp only [watch, followSource_rearranged hsame]
  · intro s moves q s' hcourse htexts
    exact watches_of_course hcourse htexts
  · intro starts records m changes m' hinterleaving hnone htexts t q hstarted hrest
    obtain ⟨p, s, moves, w, hp, -, hcourse, hsub⟩ := hinterleaving.course hnone hrest
    rw [hstarted] at hp
    cases hp
    refine ⟨s, moves, w, watches_of_course hcourse fun a b hmem => ?_, hsub⟩
    exact htexts _ (hsub.subset (Interleaving.mem_ownChanges_iff.mpr hmem))

/-! ## Files that raise -/

/-- Three component files: one raises an error, one ends the task, one exports a component. -/
def threeFiles : World Unit Unit where
  files := {
    held := .ofList [
      ("/c/error.py", .ofText "raise RuntimeError('boom')\n"
        (.raises (.raised "RuntimeError" (.str "boom")))),
      ("/c/exit.py", .ofText "raise BaseException('exit')\n"
        (.raises (.raised "BaseException" (.str "exit")))),
      ("/c/page.py", .ofText ("def render(props):\n    return props\n" ++
          "name = 'page'\nconfig = dict(render=render)\n")
        (.exports (some (.str "page")) (some { value := .ofFields [("render", .callable 0)] })))] }
  engine := ()

/-- Waits once for a batch, in which a file and the one with the component have been added. -/
def addedWith (path : String) : Source Unit Unit :=
  [.pause (.done (.ok (some [(.added, path), (.added, "c/page.py")])))]

theorem threeFiles_raiseTexts : threeFiles.files.RaiseTexts := by
  intro name content e hfile hraises _
  change Keyed.find name [_, _, _] = some content at hfile
  simp only [Keyed.find] at hfile
  split at hfile
  · cases hfile
    cases hraises
    exact ⟨_, rfl⟩
  · split at hfile
    · cases hfile
      cases hraises
      exact ⟨_, rfl⟩
    · split at hfile <;> cases hfile
      cases hraises

theorem reload_page {w : World Unit Unit} (hfiles : w.files = threeFiles.files) :
    ∃ w', (reload (Path.ofText "c/page.py")).on w = (.ok (some "page"), w') ∧
      w'.components = w.components.insert "page" (.plain "page" .none (.callable 0)) := by
  have hpath : Path.ofText "c/page.py" = ⟨false, false, ["c", "page.py"]⟩ := by decide +kernel
  have hoffer : w.files.offer (Path.ofText "c/page.py") =
      .ok (some ("page", { render := .callable 0 })) := by
    rw [hfiles, hpath]
    rfl
  obtain ⟨log, modules, hreload⟩ := reload_on (Path.ofText "c/page.py") w
  rw [hoffer] at hreload
  exact ⟨_, hreload, rfl⟩

/-- The state in which the batch is applied. -/
def threeFilesWatched : World Unit Unit :=
  threeFiles.watchStarted (Path.ofText "c")

theorem run_addedWith {path : String} {o : Except Fault Unit} {w : World Unit Unit} {o' : Except Fault Value}
    {w' : World Unit Unit} {later : List (Move (World Unit Unit))}
    (happly : (applyBatch [(.added, path), (.added, "c/page.py")]).on threeFilesWatched = (o, w))
    (hrest : Run (Proc.bind (.done o) fun _ => (logEvent .info "watch_stopped"
      [("directory", .str (Path.ofText "c").text)]).act.bind fun _ => .done (.ok .none)) w later o' w') :
    Run (watch (Path.ofText "c") (addedWith path)) threeFiles
      (.own threeFiles threeFilesWatched :: .others threeFilesWatched threeFilesWatched ::
        .own threeFilesWatched w :: later) o' w' := by
  have happly : Run ((applyBatch [(.added, path), (.added, "c/page.py")]).act.bind fun _ =>
      (logEvent .info "watch_stopped"
        [("directory", .str (Path.ofText "c").text)]).act.bind fun _ => .done (.ok .none))
      threeFilesWatched (.own threeFilesWatched w :: later) o' w' := by
    refine Proc.run_sync_bind_iff.mpr ⟨later, ?_, ?_⟩
    · rw [happly]
    · rw [happly]
      exact hrest
  refine .read (.write (.pause ?_))
  change Run ((Proc.bind (applyBatch [(.added, path), (.added, "c/page.py")]).act _).bind _) _ _ _ _
  rw [Proc.bind_assoc]
  exact happly

/-- The error of a file is logged, and the file after it is reloaded. -/
theorem error_keeps_no_file_back : ∃ moves s',
    Run (watch (Path.ofText "c") (addedWith "c/error.py")) threeFiles moves (.ok .none) s' ∧
    s'.components.get? "page" = some (.plain "page" .none (.callable 0)) ∧
    s'.eventCount "component_reload_failed" = 1 ∧
    Watches (Path.ofText "c") (addedWith "c/error.py") threeFiles moves (some (.ok .none)) s' := by
  have hpath : Path.ofText "c/error.py" = ⟨false, false, ["c", "error.py"]⟩ := by decide +kernel
  have hoffer : threeFilesWatched.files.offer (Path.ofText "c/error.py") =
      .error (.raised "RuntimeError" (.str "boom")) := by
    rw [hpath]
    rfl
  obtain ⟨log, modules, hfails⟩ := reload_on (Path.ofText "c/error.py") threeFilesWatched
  rw [hoffer] at hfails
  obtain ⟨w, hpage, hentry⟩ := reload_page (w := World.reloadFailed
    { threeFilesWatched with log := log, modules := modules } "c/error.py" "boom") rfl
  have hreloads : ReloadsAll ["c/error.py", "c/page.py"] threeFilesWatched 1 (.ok ()) w :=
    .failed hfails rfl rfl (.done hpage (.none w))
  have hasked : Batch.asked [(.added, "c/error.py"), (.added, "c/page.py")] =
      ["c/error.py", "c/page.py"] :=
    Batch.asked_pair (by decide +kernel) (by decide) (by decide +kernel) (by decide +kernel)
  rw [← hasked] at hreloads
  have hrun := run_addedWith (applyBatch_of_reloadsAll hreloads) (.read (.write (.here _ _)))
  refine ⟨_, _, hrun, ?_, ?_, ?_⟩
  · change w.components.get? "page" = _
    rw [hentry]
    exact Keyed.get?_insert_self _ _ _
  · change (w.watchStopped (Path.ofText "c")).eventCount _ = 1
    rw [World.watchStopped, World.eventCount_logged, hreloads.eventCount]
    rfl
  · refine (watch_applies_whole_batches _ _).2.2.2.1 _ _ _ _ hrun ?_
    intro a b hmem
    simp only [List.mem_cons, Move.own.injEq, reduceCtorEq, List.not_mem_nil, or_false,
      false_or] at hmem
    rcases hmem with ⟨rfl, -⟩ | ⟨rfl, -⟩ | ⟨rfl, -⟩
    · exact threeFiles_raiseTexts
    · exact threeFiles_raiseTexts
    · rw [hreloads.files]
      exact threeFiles_raiseTexts

/-- A file that raises what is no error ends the task, and the file after it is not reloaded. -/
theorem ending_keeps_file_back : ∃ moves s',
    Run (watch (Path.ofText "c") (addedWith "c/exit.py")) threeFiles moves
      (.error (.raised "BaseException" (.str "exit"))) s' ∧
    Batch.asked [(.added, "c/exit.py"), (.added, "c/page.py")] = ["c/exit.py", "c/page.py"] ∧
    s'.components.get? "page" = none ∧
    ∃ w, (reload (Path.ofText "c/page.py")).on threeFiles = (.ok (some "page"), w) ∧
      w.components.get? "page" = some (.plain "page" .none (.callable 0)) := by
  have hpath : Path.ofText "c/exit.py" = ⟨false, false, ["c", "exit.py"]⟩ := by decide +kernel
  have hoffer : threeFilesWatched.files.offer (Path.ofText "c/exit.py") =
      .error (.raised "BaseException" (.str "exit")) := by
    rw [hpath]
    rfl
  obtain ⟨log, modules, hends⟩ := reload_on (Path.ofText "c/exit.py") threeFilesWatched
  rw [hoffer] at hends
  have hreloads : ReloadsAll ["c/exit.py", "c/page.py"] threeFilesWatched 0
    (.error (.raised "BaseException" (.str "exit"))) _ := .ended hends rfl
  have hasked : Batch.asked [(.added, "c/exit.py"), (.added, "c/page.py")] =
      ["c/exit.py", "c/page.py"] :=
    Batch.asked_pair (by decide +kernel) (by decide) (by decide +kernel) (by decide +kernel)
  rw [← hasked] at hreloads
  have hrun := run_addedWith (applyBatch_of_reloadsAll hreloads) (.here _ _)
  obtain ⟨w, hpage, hentry⟩ := reload_page (w := threeFiles) rfl
  refine ⟨_, _, hrun, hasked, rfl, w, hpage, ?_⟩
  rw [hentry]
  exact Keyed.get?_insert_self _ _ _

end PageComposer
