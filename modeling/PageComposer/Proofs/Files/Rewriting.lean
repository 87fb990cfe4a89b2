import PageComposer.Proofs.Files.Decoding
import PageComposer.Proofs.Keyed
import PageComposer.Proofs.Modules.Paths

/-!
# Files that are rewritten

A file that is written anew is found where it was, with its new content, and is read as that. Content
that is no UTF-8 is refused.
-/

namespace PageComposer.Files

variable {fs : Files} {path : Path} {c c' : FileContent}

/-! ## Walks -/

/-- The files with something else at a place. -/
abbrev replace (fs : Files) (key : String) (c : FileContent) : Files :=
  { fs with held := fs.held.insert key c }

/-- Writing to a file that is there makes and removes no directory. -/
theorem isDirectory_replace {key : String} (hkey : fs.held.get? key = some c) (c' : FileContent)
    (parts : List String) : isDirectory (fs.replace key c') parts = isDirectory fs parts := by
  have hmem : key ∈ fs.held.keys := Keyed.contains_iff.mp (by rw [Keyed.contains, hkey]; rfl)
  rw [isDirectory, Keyed.keys_insert, if_pos hmem]
  rfl

section

variable {shown part : String} {here rest : List String}
  {next : List String → List String → Except Fault Entry} (hpart : part ≠ "..")
  (hshort : ¬part.utf8ByteSize > nameLimit)

include hpart hshort

theorem walkParts_link {link : StoredPath}
    (hlink : fs.links.get? (Path.place (here ++ [part])).text = some link) :
    walkParts fs shown next here (part :: rest) =
      next (if link.path.absolute then [] else here) (link.path.parts ++ rest) := by
  rw [walkParts, if_neg hshort]
  · simp only [hlink]
  · exact hpart

variable (hlink : fs.links.get? (Path.place (here ++ [part])).text = none)

include hlink

theorem walkParts_file (hfile : fs.held.get? (Path.place (here ++ [part])).text = some c) :
    walkParts fs shown next here [part] = .ok (.file c) := by
  rw [walkParts, if_neg hshort]
  · simp only [hlink, hfile]
    rfl
  · exact hpart

theorem walkParts_directory (hnone : fs.held.get? (Path.place (here ++ [part])).text = none)
    (hdirectory : fs.isDirectory (here ++ [part]) = true) :
    walkParts fs shown next here (part :: rest) = walkParts fs shown next (here ++ [part]) rest := by
  rw [walkParts, if_neg hshort]
  · simp only [hlink, hnone, hdirectory, if_true]
  · exact hpart

end

/-- A walk has found a file where following the same way leads. There it can be replaced, and the same
walk then finds what took its place. -/
private def Finds (fs : Files) (c : FileContent) (follows : Option (List String))
    (walks : Files → Except Fault Entry) : Prop :=
  ∃ there, follows = some there ∧ fs.held.get? (Path.place there).text = some c ∧
    ∀ c', walks (fs.replace (Path.place there).text c') = .ok (.file c')

private theorem walkParts_finds {shown : String}
    (target : List String → List String → Option (List String))
    (walks : Files → List String → List String → Except Fault Entry)
    (hsplit : ∀ here first later there, target here (first ++ later) = some there →
      ∃ between, target here first = some between ∧
        fs.followParts target between later = some there)
    (hnext : ∀ here parts, walks fs here parts = .ok (.file c) →
      Finds fs c (target here parts) fun fs => walks fs here parts) {here parts : List String}
    (hwalk : walkParts fs shown (walks fs) here parts = .ok (.file c)) :
    Finds fs c (fs.followParts target here parts) fun fs =>
      walkParts fs shown (walks fs) here parts := by
  fun_induction walkParts fs shown (walks fs) here parts with
  | case1 here => cases hwalk
  | case2 here rest ih => exact ih hwalk
  | case3 here part rest hpart hlong => cases hwalk
  | case4 here part rest hpart hshort there link hlink =>
    obtain ⟨place, hfollow, hplace, hnew⟩ := hnext _ _ hwalk
    obtain ⟨between, htarget, hlater⟩ := hsplit _ _ _ _ hfollow
    refine ⟨place, ?_, hplace, fun c' => ?_⟩
    · rw [followParts_link hpart hlink, htarget]
      exact hlater
    · have hlink' : (fs.replace (Path.place place).text c').links.get? _ = some link := hlink
      exact (walkParts_link hpart hshort hlink').trans (hnew c')
  | case5 here part rest hpart hshort there hlink content hfound hrest =>
    obtain rfl := List.isEmpty_iff.mp hrest
    cases hwalk
    refine ⟨there, ?_, hfound, fun c' => ?_⟩
    · rw [followParts_part hpart hlink, followParts]
    · exact walkParts_file hpart hshort hlink (Keyed.get?_insert_self _ _ _)
  | case6 here part rest hpart hshort there hlink content hfound hrest => cases hwalk
  | case7 here part rest hpart hshort there hlink hnone hdirectory ih =>
    obtain ⟨place, hfollow, hplace, hnew⟩ := ih hwalk
    refine ⟨place, (followParts_part hpart hlink).trans hfollow, hplace, fun c' => ?_⟩
    -- The directories on the way are no files, so none of them is what was replaced.
    have hother : (Path.place there).text ≠ (Path.place place).text := by
      intro heq
      rw [heq, hplace] at hnone
      cases hnone
    have hstill : isDirectory (fs.replace (Path.place place).text c') there = true := by
      rw [isDirectory_replace hplace]
      exact hdirectory
    have hlink' : (fs.replace (Path.place place).text c').links.get? _ = none := hlink
    have hnone' : (fs.replace (Path.place place).text c').held.get? _ = none :=
      (Keyed.get?_insert_of_ne fs.held c' hother).trans hnone
    exact (walkParts_directory hpart hshort hlink' hnone' hstill).trans (hnew c')
  | case8 here part rest hpart hshort there hlink hnone hdirectory => cases hwalk

/-- A walk through so many links finds its file where following them at most so deep leads. -/
theorem walk_replaced {shown : String} {links : Nat} {here parts : List String}
    (hwalk : walk fs shown links here parts = .ok (.file c)) :
    ∃ there, fs.follow links here parts = some there ∧
      fs.held.get? (Path.place there).text = some c ∧ ∀ c',
      walk (fs.replace (Path.place there).text c') shown links here parts = .ok (.file c') := by
  induction links generalizing here parts with
  | zero =>
    exact walkParts_finds (fun _ _ => none) (fun _ _ _ => .error _)
      (fun _ _ _ _ hnone => by cases hnone) (fun _ _ herror => by cases herror) hwalk
  | succ links ih =>
    refine walkParts_finds (fs.follow links) (fun fs => walk fs shown links)
      (fun here first later there hfollow => ?_) (fun _ _ hnext => ih hnext) hwalk
    rw [follow_append] at hfollow
    obtain ⟨between, hfirst, hlater⟩ := Option.bind_eq_some_iff.mp hfollow
    exact ⟨between, hfirst, follow_mono (Nat.le_succ links) hlater⟩

/-! ## Files -/

theorem find_eq_ok_iff : find fs path = .ok c ↔ path.hasNull = false ∧
    walk fs path.text linkLimit [] (fs.fromRoot path) = .ok (.file c) := by
  unfold find
  cases path.hasNull with
  | true => simp
  | false =>
    cases walk fs path.text linkLimit [] (fs.fromRoot path) with
    | error e => simp
    | ok entry => cases entry <;> simp

/-- The text that a content is read as: the characters that its bytes encode, with universal line
ends. -/
def Reads (c : FileContent) (text : String) : Prop :=
  ∃ cs, c.bytes = cs.flatMap String.utf8EncodeChar ∧ text = String.ofList (universalLines cs)

end PageComposer.Files
