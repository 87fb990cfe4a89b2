import Mathlib.Data.List.Forall2
import PageComposer.Render

/-!
# Calls of the renderer

A call gives a request at once or names a file whose text makes one. Passing `cache=False` to either
makes the same request but for its cache flag: no other argument, and no fault of the arguments,
depends on what is passed for it.
-/

namespace PageComposer

/-! ## Arguments that differ in one value -/

/-- The same names in the same order, with the same values but for one name. -/
def SameBut (name : String) : List (String × Value) → List (String × Value) → Prop :=
  List.Forall₂ fun e e' => e'.1 = e.1 ∧ (e.1 ≠ name → e' = e)

namespace SameBut

variable {name k : String} {named named' : List (String × Value)}

theorem refl (name : String) (named : List (String × Value)) : SameBut name named named :=
  List.forall₂_same.mpr fun _ _ => ⟨rfl, fun _ => rfl⟩

theorem names (h : SameBut name named named') : named'.map Prod.fst = named.map Prod.fst := by
  induction h with
  | nil => rfl
  | cons he _ ih => rw [List.map_cons, List.map_cons, he.1, ih]

theorem find (h : SameBut name named named') (hne : k ≠ name) :
    (named'.find? fun n => n.1 == k) = named.find? fun n => n.1 == k := by
  induction h with
  | nil => rfl
  | @cons e e' _ _ he _ ih =>
    by_cases hname : e.1 = name
    · have hk : (name == k) = false := by simpa using hne.symm
      simp [he.1, hname, hk, ih]
    · simp [he.2 hname, ih, List.find?_cons]

theorem others (h : SameBut name named named') {known : List String} (hname : name ∈ known) :
    (named'.filter fun n => !known.contains n.1) = named.filter fun n => !known.contains n.1 := by
  induction h with
  | nil => rfl
  | @cons e e' _ _ he _ ih =>
    by_cases heq : e.1 = name
    · rw [List.filter_cons_of_neg (by simpa [he.1, heq] using hname),
        List.filter_cons_of_neg (by simpa [heq] using hname), ih]
    · rw [he.2 heq, List.filter_cons, List.filter_cons, ih]

end SameBut

namespace Signature

variable {s : Signature} {name : String} {named named' : List (String × Value)}

theorem any_name_congr (hnames : named'.map Prod.fst = named.map Prod.fst) (k : String) :
    (named'.any fun n => n.1 == k) = named.any fun n => n.1 == k := by
  have hany := congrArg (fun names => names.any fun n => n == k) hnames
  rw [List.any_map, List.any_map] at hany
  exact hany

/-- Only the names of the arguments matter to the check of them. -/
theorem checkNamed_congr (hnames : named'.map Prod.fst = named.map Prod.fst) {filled : List String}
    {rest rest' : List (String × Value)} (hrest : rest'.map Prod.fst = rest.map Prod.fst) :
    s.checkNamed named' filled rest' = s.checkNamed named filled rest := by
  induction rest generalizing rest' with
  | nil =>
    rw [List.map_nil, List.map_eq_nil_iff] at hrest
    rw [hrest]
    rfl
  | cons e rest ih =>
    cases rest' with
    | nil => cases hrest
    | cons e' rest' =>
      obtain ⟨k, v⟩ := e
      obtain ⟨k', v'⟩ := e'
      simp only [List.map_cons, List.cons.injEq] at hrest
      obtain ⟨rfl, hrest⟩ := hrest
      have hrefused : s.refused named' k' = s.refused named k' := by
        simp only [refused, any_name_congr hnames]
      simp only [checkNamed, ih hrest, hrefused]

theorem fill_congr (h : SameBut name named named') {formals : List Formal}
    (hformals : ∀ p ∈ formals, p.1 ≠ name) : fill named' formals = fill named formals := by
  have hvalues : formals.map (fillOne named') = formals.map (fillOne named) :=
    List.map_congr_left fun p hp => by simp only [fillOne, h.find (hformals p hp)]
  simp only [fill, hvalues]

theorem fill_cons {p : Formal} {v : Value} (hv : fillOne named p = some v) (formals : List Formal) :
    fill named (p :: formals) = (v :: (fill named formals).1, (fill named formals).2) := by
  simp [fill, hv]

/-- Another value for the first parameter that only a name can give changes nothing but the value of
that parameter, whether the arguments fit or not. -/
theorem bound_congr (h : SameBut name named named') (hname : name ∉ s.names) {p : Formal}
    {more : List Formal} (hkeywords : s.keywords = p :: more) (hp : p.1 = name)
    (hmore : ∀ q ∈ more, q.1 ≠ name) {v v' : Value} (hv : fillOne named p = some v)
    (hv' : fillOne named' p = some v') (positional : List Value) :
    (∃ e, s.bound ⟨positional, named⟩ = .error e ∧ s.bound ⟨positional, named'⟩ = .error e) ∨
    ∃ b rest, s.bound ⟨positional, named⟩ = .ok b ∧ b.keywords = v :: rest ∧
      s.bound ⟨positional, named'⟩ = .ok { b with keywords := v' :: rest } := by
  have hdrop : ∀ q ∈ s.parameters.drop positional.length, q.1 ≠ name := by
    rintro q hq rfl
    exact hname (List.mem_map_of_mem (List.mem_of_mem_drop hq))
  have hknown : name ∈ s.names ++ (p :: more).map (·.1) := by simp [hp]
  simp only [bound, checkNamed_congr h.names h.names, any_name_congr h.names, hkeywords,
    fill_congr h hdrop, fill_cons hv, fill_cons hv', fill_congr h hmore, h.others hknown]
  cases s.checkNamed named ((s.names.take positional.length).drop s.unnamed) named with
  | error e => exact .inl ⟨e, rfl, rfl⟩
  | ok checked =>
    by_cases hmany : (decide (positional.length > s.parameters.length) && !s.takesMore) = true
    · simp only [hmany, if_true]
      exact .inl ⟨_, rfl, rfl⟩
    · simp only [hmany]
      cases (fill named (s.parameters.drop positional.length)).2.isEmpty with
      | false => exact .inl ⟨_, rfl, rfl⟩
      | true =>
        cases (fill named more).2.isEmpty with
        | false => exact .inl ⟨_, rfl, rfl⟩
        | true => exact .inr ⟨_, _, rfl, rfl, rfl⟩

end Signature

/-! ## Requests and calls -/

variable {τ κ : Type}

/-- The request of a call that passes `cache=False`. -/
def RenderRequest.uncached (r : RenderRequest) : RenderRequest :=
  { r with cache := false }

theorem RenderRequest.ofArgs_uncached (positional : List Value) (v : Value)
    (rest : List (String × Value)) :
    ofArgs positional (("cache", .bool false) :: rest) =
      (ofArgs positional (("cache", v) :: rest)).map uncached := by
  have hsame : SameBut "cache" (("cache", v) :: rest) (("cache", .bool false) :: rest) :=
    .cons ⟨rfl, fun hne => absurd rfl hne⟩ (SameBut.refl _ _)
  have hname : "cache" ∉ signature.names := by decide
  have hmore : ∀ q ∈ [(("filename", some .none) : Formal)], q.1 ≠ "cache" := by simp
  have hfilled (v : Value) :
      Signature.fillOne (("cache", v) :: rest) ("cache", some (.bool false)) = some v := by
    simp [Signature.fillOne]
  unfold ofArgs
  obtain ⟨e, hbound, hbound'⟩ | ⟨⟨values, _, more, others⟩, keywords, hbound, rfl, hbound'⟩ :=
    Signature.bound_congr hsame hname rfl rfl hmore (hfilled v) (hfilled _) (.none :: positional)
  · rw [hbound, hbound']
    rfl
  · rw [hbound, hbound']
    rcases values with _ | ⟨_, _ | ⟨template, _ | ⟨data, _ | ⟨_, _⟩⟩⟩⟩ <;>
      rcases keywords with _ | ⟨filename, _ | ⟨_, _⟩⟩ <;> rfl

/-- The arguments of a call with `cache=False` where it passed another value. -/
def withoutCache (named : List (String × Value)) : List (String × Value) :=
  named.map fun e => if e.1 = "cache" then (e.1, .bool false) else e

theorem sameBut_withoutCache (named : List (String × Value)) :
    SameBut "cache" named (withoutCache named) := by
  induction named with
  | nil => exact .nil
  | cons e named ih =>
    refine .cons ?_ ih
    by_cases he : e.1 = "cache" <;> simp [he]

theorem fillOne_withoutCache (named : List (String × Value)) :
    Signature.fillOne (withoutCache named) ("cache", some (.bool false)) = some (.bool false) := by
  induction named with
  | nil => rfl
  | cons e named ih =>
    by_cases he : e.1 = "cache"
    · simp [Signature.fillOne, withoutCache, he]
    · simpa [Signature.fillOne, withoutCache, he] using ih

/-- A call for a file that passes `cache=False` renders the same requests without the cache. -/
theorem renderFile_withoutCache (h : Host τ κ) (positional : List Value)
    (named : List (String × Value)) :
    renderFile h positional (withoutCache named) =
      renderFileBy (fun r => render h r.uncached) positional named := by
  have hname : "cache" ∉ fileSignature.names := by decide
  have hmore : ∀ q ∈ ([] : List Formal), q.1 ≠ "cache" := by simp
  have hfilled (named : List (String × Value)) :
      ∃ v, Signature.fillOne named ("cache", some (.bool false)) = some v := by
    simp only [Signature.fillOne]
    cases named.find? fun n => n.1 == "cache" with
    | none => exact ⟨_, rfl⟩
    | some n => exact ⟨n.2, rfl⟩
  obtain ⟨v, hv⟩ := hfilled named
  unfold renderFile renderFileBy
  obtain ⟨e, hbound, hbound'⟩ | ⟨⟨values, _, more, others⟩, keywords, hbound, rfl, hbound'⟩ :=
    Signature.bound_congr (sameBut_withoutCache named) hname rfl rfl hmore hv
      (fillOne_withoutCache named) (.none :: positional)
  · rw [hbound, hbound']
  · rw [hbound, hbound']
    change inScope _ (Proc.bind _ _) = inScope _ (Proc.bind _ _)
    congr 2
    funext source
    have hrequest : fileRequest ⟨values, .bool false :: keywords, more, others⟩ source =
        (fileRequest ⟨values, v :: keywords, more, others⟩ source).map RenderRequest.uncached :=
      RenderRequest.ofArgs_uncached _ _ _
    rw [hrequest]
    cases fileRequest ⟨values, v :: keywords, more, others⟩ source <;> rfl

/-- A call of the renderer: for a template, or for a template file. -/
inductive Call where
  | template (request : RenderRequest)
  | file (positional : List Value) (named : List (String × Value))

/-- The state in which a template file is read, with the scope of its rendering open. -/
def World.entered (w : World τ κ) (b : Bound) : World τ κ :=
  { w with bindings := (Log.Bindings.enter w.bindings [("template_file", .str b.path)]).2 }

namespace Call

/-- The call with a renderer for its request. -/
def runBy (render : RenderRequest → Act τ κ Value) : Call → Act τ κ Value
  | .template r => render r
  | .file positional named => renderFileBy render positional named

def run (h : Host τ κ) : Call → Act τ κ Value
  | .template r => render h r
  | .file positional named => renderFile h positional named

/-- The same call with `cache=False`. -/
def uncached : Call → Call
  | .template r => .template r.uncached
  | .file positional named => .file positional (withoutCache named)

/-- The request that the call makes in a state, when `others` happens while a file is read; `none` if
it fails before it makes one. -/
def requestIn (others : World τ κ → World τ κ) (w : World τ κ) : Call → Option RenderRequest
  | .template r => some r
  | .file positional named =>
    match fileSignature.bound ⟨.none :: positional, named⟩ with
    | .error _ => none
    | .ok b =>
      match Files.readText (others (w.entered b)).files (Path.ofText b.path) with
      | .error _ => none
      | .ok source => (fileRequest b source).toOption

theorem run_uncached (h : Host τ κ) (c : Call) :
    c.uncached.run h = c.runBy fun r => render h r.uncached := by
  cases c with
  | template r => rfl
  | file positional named => exact renderFile_withoutCache h positional named

end Call

end PageComposer
