import PageComposer.Reload

/-!
# Paths of component files

A loaded file is listed with the text of its resolved path. Reading that text gives the resolved path
back, so the name under which the file is loaded can be told from the text. A resolved path goes through
no link, so resolving it once more gives it back.
-/

namespace PageComposer.Path

variable {part : String} {parts : List String} {cs rest : List Char}

/-! ## Pieces between slashes -/

/-- A part of a path that is read back as it was written. -/
structure IsPart (part : String) : Prop where
  nonempty : part ≠ ""
  noDot : part ≠ "."
  noSlash : '/' ∉ part.toList

theorem pieces_of_notMem (piece : List Char) (h : '/' ∉ cs) :
    pieces piece cs = [String.ofList (piece.reverse ++ cs)] := by
  induction cs generalizing piece with
  | nil => simp [pieces]
  | cons c cs ih =>
    simp only [List.mem_cons, not_or] at h
    rw [pieces, ih _ h.2]
    · simp
    · rintro rfl
      exact h.1 rfl

theorem pieces_append_slash (piece : List Char) (h : '/' ∉ cs) :
    pieces piece (cs ++ '/' :: rest) = String.ofList (piece.reverse ++ cs) :: pieces [] rest := by
  induction cs generalizing piece with
  | nil => simp [pieces]
  | cons c cs ih =>
    simp only [List.mem_cons, not_or] at h
    rw [List.cons_append, pieces, ih _ h.2]
    · simp
    · rintro rfl
      exact h.1 rfl

theorem pieces_intercalate (hne : parts ≠ []) (h : ∀ part ∈ parts, '/' ∉ part.toList) :
    pieces [] (String.intercalate "/" parts).toList = parts := by
  induction parts with
  | nil => exact absurd rfl hne
  | cons part parts ih =>
    have hpart := h part List.mem_cons_self
    cases parts with
    | nil => simp [pieces_of_notMem _ hpart]
    | cons next parts =>
      have hrest := ih (by simp) fun p hp => h p (List.mem_cons_of_mem _ hp)
      rw [String.intercalate_cons_cons, String.toList_append, String.toList_append,
        List.append_assoc]
      change pieces [] (part.toList ++ '/' :: _) = _
      rw [pieces_append_slash _ hpart]
      change _ :: pieces [] (String.intercalate "/" (next :: parts)).toList = _
      rw [hrest]
      simp

theorem notMem_of_mem_pieces {piece : List Char} (hpiece : '/' ∉ piece)
    (hpart : part ∈ pieces piece cs) : '/' ∉ part.toList := by
  induction cs generalizing piece with
  | nil =>
    obtain rfl := List.mem_singleton.mp hpart
    simpa using hpiece
  | cons c cs ih =>
    by_cases hc : c = '/'
    · subst hc
      rw [pieces] at hpart
      rcases List.mem_cons.mp hpart with rfl | hpart
      · simpa using hpiece
      · exact ih (by simp) hpart
    · rw [pieces] at hpart
      · exact ih (by simp [Ne.symm hc, hpiece]) hpart
      · exact hc

theorem isPart_ofText {text : String} (hpart : part ∈ (ofText text).parts) : IsPart part := by
  obtain ⟨hpiece, hkept⟩ := List.mem_filter.mp hpart
  simp only [bne_iff_ne, ne_eq, Bool.and_eq_true] at hkept
  exact ⟨hkept.1, hkept.2, notMem_of_mem_pieces (by simp) hpiece⟩

/-! ## Reading a written path -/

/-- Parts between slashes do not start with one. -/
theorem intercalate_ne_slash_cons (h : ∀ part ∈ parts, IsPart part) (rest : List Char) :
    (String.intercalate "/" parts).toList ≠ '/' :: rest := by
  cases parts with
  | nil => simp
  | cons part parts =>
    have hpart := h part List.mem_cons_self
    obtain ⟨more, hbody⟩ : ∃ more, (String.intercalate "/" (part :: parts)).toList =
        part.toList ++ more := by
      cases parts with
      | nil => exact ⟨[], by simp⟩
      | cons next parts =>
        rw [String.intercalate_cons_cons, String.toList_append, String.toList_append,
          List.append_assoc]
        exact ⟨_, rfl⟩
    intro hslash
    rw [hbody] at hslash
    cases hchars : part.toList with
    | nil => exact hpart.nonempty (String.toList_eq_nil_iff.mp hchars)
    | cons c cs =>
      rw [hchars] at hslash
      obtain rfl : c = '/' := (List.cons.inj hslash).1
      exact hpart.noSlash (hchars ▸ List.mem_cons_self)

theorem toList_text (p : Path) : p.text.toList =
    if p.absolute then
      (if p.doubled then ['/', '/'] else ['/']) ++ (String.intercalate "/" p.parts).toList
    else if p.parts.isEmpty then ['.'] else (String.intercalate "/" p.parts).toList := by
  obtain ⟨absolute, doubled, parts⟩ := p
  cases absolute <;> cases doubled <;> cases parts <;> simp [text]

theorem parts_ofText_text {p : Path} (h : ∀ part ∈ p.parts, IsPart part) :
    (ofText p.text).parts = p.parts := by
  obtain ⟨absolute, doubled, parts⟩ := p
  change ∀ part ∈ parts, IsPart part at h
  have hbody : (pieces [] (String.intercalate "/" parts).toList).filter
      (fun part => part != "" && part != ".") = parts := by
    cases parts with
    | nil => rfl
    | cons part parts =>
      rw [pieces_intercalate (by simp) fun part hpart => (h part hpart).noSlash]
      refine List.filter_eq_self.mpr fun part hpart => ?_
      simp [(h part hpart).nonempty, (h part hpart).noDot]
  change (pieces [] (Path.text _).toList).filter _ = parts
  cases absolute with
  | true => cases doubled <;> simpa [toList_text, pieces] using hbody
  | false =>
    cases parts with
    | nil => simp [toList_text, pieces]
    | cons part parts => simpa [toList_text] using hbody

/-- Reading the text of a path gives the path back, if it does not start with two slashes. -/
theorem ofText_text {p : Path} (hsingle : p.doubled = false) (h : ∀ part ∈ p.parts, IsPart part) :
    ofText p.text = p := by
  have hparts := parts_ofText_text h
  obtain ⟨absolute, doubled, parts⟩ := p
  cases hsingle
  have hbody : ∀ rest, (String.intercalate "/" parts).toList ≠ '/' :: rest :=
    intercalate_ne_slash_cons h
  have hrelative (rest : List Char) (hr : absolute = false) :
      (Path.text ⟨absolute, false, parts⟩).toList ≠ '/' :: rest := by
    cases hr
    cases parts with
    | nil => simp [toList_text]
    | cons part parts => simpa [toList_text] using hbody rest
  have habsolute : (Path.text ⟨absolute, false, parts⟩).startsWith "/" = absolute := by
    cases absolute with
    | true => simp [String.startsWith_string_iff, toList_text]
    | false =>
      rw [← Bool.not_eq_true, String.startsWith_string_iff]
      rintro ⟨rest, hrest⟩
      exact hrelative rest rfl hrest.symm
  have hdoubled : (Path.text ⟨absolute, false, parts⟩).startsWith "//" = false := by
    rw [← Bool.not_eq_true, String.startsWith_string_iff]
    rintro ⟨rest, hrest⟩
    cases absolute with
    | true => exact hbody rest (by simpa [toList_text] using hrest.symm)
    | false => exact hrelative ('/' :: rest) rfl hrest.symm
  have hread (text : String) : ofText text =
      ⟨text.startsWith "/", text.startsWith "//" && !text.startsWith "///", (ofText text).parts⟩ := rfl
  rw [hread, habsolute, hdoubled, hparts, Bool.false_and]

/-! ## Characters of a path -/

theorem mem_text_iff {p : Path} {c : Char} (hslash : c ≠ '/') (hdot : c ≠ '.') :
    c ∈ p.text.toList ↔ ∃ part ∈ p.parts, c ∈ part.toList := by
  have hbody (parts : List String) : c ∈ (String.intercalate "/" parts).toList ↔
      ∃ part ∈ parts, c ∈ part.toList := by
    induction parts with
    | nil => simp
    | cons part parts ih =>
      cases parts with
      | nil => simp
      | cons next parts =>
        rw [String.intercalate_cons_cons, String.toList_append, String.toList_append]
        rw [List.mem_append, List.mem_append, ih]
        simp [hslash]
  obtain ⟨absolute, doubled, parts⟩ := p
  cases absolute with
  | true => cases doubled <;> simpa [toList_text, hslash] using hbody parts
  | false =>
    cases parts with
    | nil => simp [toList_text, hdot]
    | cons part parts => simpa [toList_text] using hbody (part :: parts)

theorem hasNull_eq_false_iff {p : Path} :
    p.hasNull = false ↔ ∀ part ∈ p.parts, '\x00' ∉ part.toList := by
  have hnull : p.hasNull = true ↔ ∃ part ∈ p.parts, '\x00' ∈ part.toList := by
    rw [← mem_text_iff (by decide) (by decide), hasNull, List.any_eq_true]
    simp
  rw [← Bool.not_eq_true, hnull]
  simp

end PageComposer.Path

namespace PageComposer.Files

variable {fs : Files} {here parts there : List String} {path place : Path}

/-! ## Following a path -/

section

variable {target target' : List String → List String → Option (List String)} {part : String}
  {rest : List String}

theorem followParts_part (hpart : part ≠ "..")
    (hnone : fs.links.get? (Path.place (here ++ [part])).text = none) :
    fs.followParts target here (part :: rest) = fs.followParts target (here ++ [part]) rest := by
  rw [followParts]
  · simp only [hnone]
  · exact hpart

theorem followParts_link (hpart : part ≠ "..") {link : StoredPath}
    (hlink : fs.links.get? (Path.place (here ++ [part])).text = some link) :
    fs.followParts target here (part :: rest) =
      (target (if link.path.absolute then [] else here) link.path.parts).bind fun there =>
        fs.followParts target there rest := by
  rw [followParts]
  · simp only [hlink]
    cases target (if link.path.absolute then [] else here) link.path.parts <;> rfl
  · exact hpart

/-- One follows the parts of a path by following the first ones and then the others. -/
theorem followParts_append (first later : List String) :
    fs.followParts target here (first ++ later) =
      (fs.followParts target here first).bind fun there => fs.followParts target there later := by
  induction first generalizing here with
  | nil => rw [List.nil_append, followParts, Option.bind_some]
  | cons part first ih =>
    rw [List.cons_append]
    by_cases hpart : part = ".."
    · rw [hpart, followParts, followParts, ih]
    · cases hlink : fs.links.get? (Path.place (here ++ [part])).text with
      | none => rw [followParts_part hpart hlink, followParts_part hpart hlink, ih]
      | some link =>
        rw [followParts_link hpart hlink, followParts_link hpart hlink, Option.bind_assoc]
        exact congrArg _ (funext fun _ => ih)

/-- Where more links are known to lead, no path leads elsewhere. -/
theorem followParts_mono
    (hmore : ∀ here parts there, target here parts = some there → target' here parts = some there)
    (hend : fs.followParts target here parts = some there) :
    fs.followParts target' here parts = some there := by
  induction parts generalizing here with
  | nil => exact hend
  | cons part parts ih =>
    by_cases hpart : part = ".."
    · rw [hpart, followParts] at hend ⊢
      exact ih hend
    · cases hlink : fs.links.get? (Path.place (here ++ [part])).text with
      | none =>
        rw [followParts_part hpart hlink] at hend ⊢
        exact ih hend
      | some link =>
        rw [followParts_link hpart hlink] at hend ⊢
        obtain ⟨found, hfound, hend⟩ := Option.bind_eq_some_iff.mp hend
        exact Option.bind_eq_some_iff.mpr ⟨found, hmore _ _ _ hfound, ih hend⟩

end

theorem follow_append (depth : Nat) (first later : List String) :
    fs.follow depth here (first ++ later) =
      (fs.follow depth here first).bind fun there => fs.follow depth there later := by
  cases depth with
  | zero => exact followParts_append first later
  | succ depth => exact followParts_append first later

theorem follow_mono {depth depth' : Nat} (hless : depth ≤ depth')
    (hend : fs.follow depth here parts = some there) : fs.follow depth' here parts = some there := by
  induction depth generalizing depth' here parts there with
  | zero =>
    cases depth' with
    | zero => exact hend
    | succ depth' => exact followParts_mono (fun _ _ _ hnone => by cases hnone) hend
  | succ depth ih =>
    obtain ⟨more, rfl⟩ := Nat.exists_eq_add_of_le' hless
    exact followParts_mono (fun _ _ _ hfound => ih (Nat.le_add_left _ _) hfound) hend

/-- What holds of a place before a path is followed holds of where it leads, if it stays true on every step
up, and on every step down by a part of the path or of a link. -/
theorem follow_keeps {P : List String → Prop} {Q : String → Prop} {depth : Nat} (hroot : P [])
    (hup : ∀ here, P here → P here.dropLast)
    (hdown : ∀ here part, P here → Q part → part ≠ ".." →
      fs.links.get? (Path.place (here ++ [part])).text = none → P (here ++ [part]))
    (hlinks : ∀ key link, fs.links.get? key = some link → ∀ part ∈ link.path.parts, Q part)
    (hhere : P here) (hparts : ∀ part ∈ parts, Q part)
    (hend : fs.follow depth here parts = some there) : P there := by
  -- The outer induction is on the depth, the inner one on the parts.
  have hall (target : List String → List String → Option (List String))
      (htarget : ∀ here parts there, P here → (∀ part ∈ parts, Q part) →
        target here parts = some there → P there)
      (here parts there : List String) (hhere : P here) (hparts : ∀ part ∈ parts, Q part)
      (hend : fs.followParts target here parts = some there) : P there := by
    fun_induction followParts fs target here parts with
    | case1 here =>
      cases hend
      exact hhere
    | case2 here rest ih =>
      exact ih (hup here hhere) (List.forall_mem_cons.mp hparts).2 hend
    | case3 here part rest hpart hnone ih =>
      obtain ⟨hfirst, hrest⟩ := List.forall_mem_cons.mp hparts
      exact ih (hdown here part hhere hfirst hpart hnone) hrest hend
    | case4 here part rest hpart link hsome found hfound ih =>
      refine ih (htarget _ _ _ ?_ (hlinks _ link hsome) hfound) (List.forall_mem_cons.mp hparts).2 hend
      split
      · exact hroot
      · exact hhere
    | case5 => cases hend
  induction depth generalizing here parts there with
  | zero => exact hall _ (fun _ _ _ _ _ hnone => by cases hnone) here parts there hhere hparts hend
  | succ depth ih =>
    exact hall _ (fun _ _ _ hhere hparts hend => ih hhere hparts hend) here parts there hhere hparts hend

/-- Nothing on the way down to a place is a link or a double dot. -/
def Settled (fs : Files) (here : List String) : Prop :=
  ∀ first part rest, here = first ++ part :: rest →
    part ≠ ".." ∧ fs.links.get? (Path.place (first ++ [part])).text = none

theorem Settled.of_prefix (h : fs.Settled here) (hless : there <+: here) : fs.Settled there := by
  obtain ⟨more, rfl⟩ := hless
  intro first part rest hsplit
  exact h first part (rest ++ more) (by rw [hsplit, List.append_assoc, List.cons_append])

theorem Settled.concat {part : String} (h : fs.Settled here) (hpart : part ≠ "..")
    (hnone : fs.links.get? (Path.place (here ++ [part])).text = none) :
    fs.Settled (here ++ [part]) := by
  intro first part' rest hsplit
  obtain rfl | ⟨rest, last, rfl⟩ := List.eq_nil_or_concat rest
  · obtain ⟨rfl, hsame⟩ := List.append_inj' hsplit rfl
    cases hsame
    exact ⟨hpart, hnone⟩
  · rw [List.concat_eq_append, ← List.cons_append, ← List.append_assoc] at hsplit
    exact h first part' rest (List.append_inj' hsplit rfl).1

/-- The root is settled. -/
theorem settled_nil : fs.Settled [] :=
  fun first part rest hsplit => by simp at hsplit

/-- Where a path leads is settled. -/
theorem settled_of_follow {depth : Nat} (hhere : fs.Settled here)
    (hend : fs.follow depth here parts = some there) : fs.Settled there :=
  follow_keeps (Q := fun _ => True) settled_nil (fun _ h => h.of_prefix (List.dropLast_prefix _))
    (fun _ _ h _ hpart hnone => h.concat hpart hnone) (fun _ _ _ _ _ => trivial) hhere
    (fun _ _ => trivial) hend

/-- A way that is settled leads to its own end. -/
theorem follow_settled (depth : Nat) (h : fs.Settled (here ++ parts)) :
    fs.follow depth here parts = some (here ++ parts) := by
  have hparts (target : List String → List String → Option (List String)) :
      fs.followParts target here parts = some (here ++ parts) := by
    induction parts generalizing here with
    | nil => simp [followParts]
    | cons part parts ih =>
      obtain ⟨hpart, hnone⟩ := h here part parts rfl
      rw [List.append_cons] at h ⊢
      rw [followParts_part hpart hnone]
      exact ih h
  cases depth with
  | zero => exact hparts _
  | succ depth => exact hparts _

/-- Every part of the place that is reached comes from the way or from a link. -/
theorem forall_mem_follow {P : String → Prop} {depth : Nat} (hhere : ∀ part ∈ here, P part)
    (hparts : ∀ part ∈ parts, P part)
    (hlinks : ∀ key link, fs.links.get? key = some link → ∀ part ∈ link.path.parts, P part)
    (hend : fs.follow depth here parts = some there) : ∀ part ∈ there, P part := by
  refine follow_keeps (P := fun here => ∀ part ∈ here, P part) (Q := P) (by simp)
    (fun here h part hmem => h part ((List.dropLast_sublist here).subset hmem))
    (fun here part h hpart _ _ => ?_) hlinks hhere hparts hend
  simpa [or_imp, forall_and] using ⟨h, hpart⟩

/-! ## Resolved paths -/

/-- A path is resolved to the absolute path of where it leads. -/
theorem resolve_eq_ok_iff : fs.resolve path = .ok place ↔ path.hasNull = false ∧
    ∃ parts, fs.follow fs.linkDepth [] (fs.fromRoot path) = some parts ∧ place = Path.place parts := by
  unfold resolve
  cases path.hasNull with
  | true => simp
  | false =>
    cases fs.follow fs.linkDepth [] (fs.fromRoot path) with
    | none => simp
    | some parts => simp [eq_comm]

/-- A property of all parts of a path, of the working directory and of where links lead is one of all
parts of the resolved path. -/
theorem forall_mem_resolve {P : String → Prop} (hpath : ∀ part ∈ path.parts, P part)
    (hstored : ∀ p : StoredPath, ∀ part ∈ p.path.parts, P part) (h : fs.resolve path = .ok place) :
    ∀ part ∈ place.parts, P part := by
  obtain ⟨-, parts, hfollow, rfl⟩ := resolve_eq_ok_iff.mp h
  refine forall_mem_follow (by simp) (fun part hmem => ?_) (fun key link _ => hstored link) hfollow
  unfold fromRoot at hmem
  split at hmem
  · exact hpath part hmem
  · exact (List.mem_append.mp hmem).elim (hstored fs.home part) (hpath part)

/-- A resolved path names a place. -/
theorem hasNull_of_resolve (h : fs.resolve path = .ok place) : place.hasNull = false :=
  Path.hasNull_eq_false_iff.mpr <| forall_mem_resolve
    (Path.hasNull_eq_false_iff.mp (resolve_eq_ok_iff.mp h).1)
    (fun p => Path.hasNull_eq_false_iff.mp p.noNull) h

/-- The paths that resolve to themselves are those of settled places. -/
theorem resolve_self_iff : fs.resolve place = .ok place ↔
    place.hasNull = false ∧ ∃ parts, place = Path.place parts ∧ fs.Settled parts := by
  constructor
  · intro h
    obtain ⟨hnull, parts, hfollow, rfl⟩ := resolve_eq_ok_iff.mp h
    exact ⟨hnull, parts, rfl, settled_of_follow settled_nil hfollow⟩
  · rintro ⟨hnull, parts, rfl, hsettled⟩
    rw [← List.nil_append parts] at hsettled
    exact resolve_eq_ok_iff.mpr ⟨hnull, parts, follow_settled fs.linkDepth hsettled, rfl⟩

/-- Resolving a path twice comes to resolving it once. -/
theorem resolve_resolve (h : fs.resolve path = .ok place) : fs.resolve place = .ok place := by
  have hnull := hasNull_of_resolve h
  obtain ⟨-, parts, hfollow, rfl⟩ := resolve_eq_ok_iff.mp h
  refine resolve_self_iff.mpr ⟨hnull, parts, rfl, ?_⟩
  exact settled_of_follow settled_nil hfollow

/-- While links stay as they are, so do the places that paths have been resolved to. -/
theorem resolve_self_of_links {fs' : Files} (hlinks : fs'.links = fs.links)
    (h : fs.resolve place = .ok place) : fs'.resolve place = .ok place := by
  obtain ⟨hnull, parts, rfl, hsettled⟩ := resolve_self_iff.mp h
  refine resolve_self_iff.mpr ⟨hnull, parts, rfl, ?_⟩
  unfold Settled
  rw [hlinks]
  exact hsettled

/-- Reading the text of a resolved path gives it back. -/
theorem ofText_text_of_resolve {text : String} (h : fs.resolve (Path.ofText text) = .ok place) :
    Path.ofText place.text = place := by
  have hsingle : place.doubled = false := by
    obtain ⟨-, parts, -, rfl⟩ := resolve_eq_ok_iff.mp h
    rfl
  exact Path.ofText_text hsingle <| forall_mem_resolve (fun _ => Path.isPart_ofText)
    (fun p _ => Path.isPart_ofText) h

end PageComposer.Files
