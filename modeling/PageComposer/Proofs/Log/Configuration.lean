import Mathlib.Data.List.Induction
import PageComposer.Log.Output

/-!
# Configuring the logger

Each call puts a new handler of our own in the place of the old one, last, and leaves the handlers of
the host application alone. Only then is the level set, so a call whose level name stands for some other
thing than a level fails with the handler swapped and everything else as it was.
-/

namespace PageComposer.Log

/-! ## Level names -/

/-- The levels by their standard names. -/
def standardLevels : List (String × Nat) :=
  [("NOTSET", 0), ("DEBUG", 10), ("INFO", 20), ("WARN", 30), ("WARNING", 30), ("ERROR", 40),
    ("CRITICAL", 50), ("FATAL", 50)]

/-- The level that a name means: that of the standard name which it is in capitals, and otherwise
information. -/
def levelNamed (name : String) : Nat :=
  (standardLevels.lookup (Text.upper name)).getD Level.info.number

/-- In capitals, the name is that of a text or a table and not of a level. -/
def NamesOther (name : String) : Prop :=
  Text.upper name = "BASIC_FORMAT" ∨ Text.upper name = "_STYLES"

instance (name : String) : Decidable (NamesOther name) :=
  inferInstanceAs (Decidable (_ ∨ _))

theorem lookupLevel_of_other {name : String} (h : NamesOther name) :
    ∃ problem, lookupLevel name = .refused problem := by
  unfold lookupLevel
  obtain h | h := h
  · rw [h]
    exact ⟨_, rfl⟩
  · rw [h]
    exact ⟨_, rfl⟩

theorem lookupLevel_of_level {name : String} (h : ¬ NamesOther name) :
    lookupLevel name = .number (levelNamed name) := by
  unfold NamesOther at h
  unfold lookupLevel levelNamed
  split
  case h_9 hother => exact absurd (.inl hother) h
  case h_10 hother => exact absurd (.inr hother) h
  case h_11 =>
    have hunknown : standardLevels.lookup (Text.upper name) = none := by
      rw [List.lookup_eq_none_iff]
      simp_all [standardLevels]
    rw [hunknown]
    rfl
  all_goals
    rename_i hlevel
    rw [hlevel]
    rfl

theorem levelNamed_of_upper {name : String} (standard : String) {n : Nat}
    (hupper : Text.upper name = standard) (hlevel : standardLevels.lookup standard = some n) :
    ¬ NamesOther name ∧ levelNamed name = n := by
  constructor
  · rw [NamesOther, hupper]
    rintro (rfl | rfl)
    · have hnone : standardLevels.lookup "BASIC_FORMAT" = none := rfl
      rw [hnone] at hlevel
      cases hlevel
    · have hnone : standardLevels.lookup "_STYLES" = none := rfl
      rw [hnone] at hlevel
      cases hlevel
  · rw [levelNamed, hupper, hlevel]
    rfl

theorem debug_level : ¬ NamesOther "debug" ∧ levelNamed "debug" = 10 :=
  levelNamed_of_upper "DEBUG" (by decide +kernel) rfl

theorem basicFormat_other : NamesOther "basic_format" :=
  .inl (by decide +kernel)

/-! ## Handlers -/

namespace Logger

variable {l : Logger}

/-- The handlers of the host application. -/
def foreign (l : Logger) : List Handler :=
  l.handlers.filter fun h => !h.isOwn

/-- Taking our own handlers off goes through the handlers as they were at first. Those that it has seen
and kept are not our own, so each of our own is found where it stands. -/
theorem removeOwn_eq (kept : List Handler) {rest : List Handler}
    (hkept : ∀ h ∈ kept, h.isOwn = false) (hl : l.handlers = kept ++ rest) :
    l.removeOwn rest = { l with handlers := kept ++ rest.filter fun h => !h.isOwn } := by
  induction rest generalizing l kept with
  | nil =>
    rw [List.filter_nil, ← hl]
    rfl
  | cons h rest ih =>
    rw [removeOwn]
    cases hown : h.isOwn with
    | true =>
      have hnew : h ∉ kept := fun hmem => by
        rw [hkept h hmem] at hown
        cases hown
      have hremoved : (l.removeHandler h).handlers = kept ++ rest := by
        rw [removeHandler, hl, List.erase_append_right _ hnew, List.erase_cons_head]
      rw [if_pos rfl, ih kept hkept hremoved, List.filter_cons_of_neg (by simp [hown])]
      rfl
    | false =>
      have hmore : ∀ k ∈ kept ++ [h], k.isOwn = false := by
        intro k hk
        rcases List.mem_append.mp hk with hk | hk
        · exact hkept k hk
        · rw [List.mem_singleton.mp hk, hown]
      rw [if_neg (by simp), ih (kept ++ [h]) hmore (by simp [hl]), List.filter_cons_of_pos (by simp [hown])]
      simp

/-- None of our own handlers is left where the new one is added. -/
theorem swapHandler_eq (l : Logger) (format : Format) :
    l.swapHandler format = { l with handlers := l.foreign ++ [.own format] } := by
  have hremoved := removeOwn_eq (l := l) [] (by simp) rfl
  have hnew : Handler.own format ∉ l.foreign := by simp [foreign, Handler.isOwn]
  rw [swapHandler, hremoved, List.nil_append]
  change addHandler { l with handlers := l.foreign } _ = _
  rw [addHandler, if_neg hnew]

/-! ## One call -/

theorem configure_of_level {name : String} (h : ¬ NamesOther name) (l : Logger) (json : Bool) :
    l.configure name json =
      (.ok (),
        { level := levelNamed name
          propagate := false
          handlers := l.foreign ++ [.own (.ofFlag json)]
          rendering := some (.ofFlag json) }) := by
  rw [configure, lookupLevel_of_level h, swapHandler_eq]

theorem configure_of_other {name : String} (h : NamesOther name) (l : Logger) (json : Bool) :
    ∃ problem, l.configure name json =
      (.error problem, { l with handlers := l.foreign ++ [.own (.ofFlag json)] }) := by
  obtain ⟨problem, hlookup⟩ := lookupLevel_of_other h
  exact ⟨problem, by rw [configure, hlookup, swapHandler_eq]⟩

/-- A call returns exactly if its level name, in capitals, is not that of some other thing. Then the
logger has the level of that standard name, or information for any other text, and all of it is as the
call says. A call that fails leaves the handler of the call, and everything else as it was before. -/
theorem configure_applies_iff (l : Logger) (name : String) (json : Bool) :
    ((l.configure name json).1 = .ok () ↔ ¬ NamesOther name) ∧
    ((l.configure name json).1 = .ok () →
      (l.configure name json).2 =
        { level := levelNamed name
          propagate := false
          handlers := l.foreign ++ [.own (.ofFlag json)]
          rendering := some (.ofFlag json) }) ∧
    ∀ problem, (l.configure name json).1 = .error problem →
      (l.configure name json).2 = { l with handlers := l.foreign ++ [.own (.ofFlag json)] } := by
  by_cases h : NamesOther name
  · obtain ⟨problem, hfails⟩ := configure_of_other h l json
    rw [hfails]
    refine ⟨iff_of_false (fun hok => ?_) (not_not_intro h), fun hok => ?_, fun _ _ => rfl⟩
    · cases hok
    · cases hok
  · rw [configure_of_level h]
    refine ⟨iff_of_true rfl h, fun _ => rfl, fun problem hfails => ?_⟩
    cases hfails

/-- A logger with handlers of the host application around our own. -/
def hosted : Logger where
  handlers := [.foreign 0, .own .console, .foreign 1]

/-- A name that is no level's means information. -/
theorem unknown_name_means_information :
    hosted.configure "chatty" true =
      (.ok (),
        { level := 20
          propagate := false
          handlers := [.foreign 0, .foreign 1, .own .json]
          rendering := some .json }) := by
  obtain ⟨hiff, happlied, -⟩ := configure_applies_iff hosted "chatty" true
  have hupper : Text.upper "chatty" = "CHATTY" := by decide +kernel
  have hname : ¬ NamesOther "chatty" := by
    rw [NamesOther, hupper]
    decide
  have hlevel : levelNamed "chatty" = 20 := by
    rw [levelNamed, hupper]
    rfl
  have hok := hiff.mpr hname
  have hstate := happlied hok
  rw [hlevel] at hstate
  exact Prod.ext hok hstate

/-- The name of a text that is no level: after a call for debugging on the console, a call with it fails.
Its handler writes JSON, and events are still turned into console lines of the first call. -/
theorem format_name_half_applied : ∃ problem debugging,
    Logger.configure {} "debug" false = (.ok (), debugging) ∧
    debugging.level = 10 ∧ debugging.handlers = [.own .console] ∧
    debugging.rendering = some .console ∧
    debugging.configure "basic_format" true =
      (.error problem, { debugging with handlers := [.own .json] }) := by
  obtain ⟨hlevel, hten⟩ := debug_level
  obtain ⟨problem, hfails⟩ :=
    configure_of_other basicFormat_other (Logger.configure {} "debug" false).2 true
  rw [configure_of_level hlevel, hten] at hfails
  refine ⟨problem, (Logger.configure {} "debug" false).2, ?_⟩
  rw [configure_of_level hlevel, hten]
  exact ⟨rfl, rfl, rfl, rfl, hfails⟩

end Logger

/-! ## Several calls -/

namespace Logger

end Logger

end PageComposer.Log
