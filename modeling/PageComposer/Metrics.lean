import PageComposer.Keyed
import PageComposer.Signature
import PageComposer.Value.Arithmetic

/-!
# Render metrics

Counters of renders, cache look-ups, compilations and errors, a histogram of render durations, and
their exposition as text lines.
-/

namespace PageComposer

/-- A count per pair of labels, in the order in which the pairs were first counted. -/
abbrev Tally := List ((String × String) × Nat)

/-- Adds one to the count of a pair. -/
def Tally.add (labels : String × String) : Tally → Tally
  | [] => [(labels, 1)]
  | (l, n) :: rest => if l = labels then (l, n + 1) :: rest else (l, n) :: Tally.add labels rest

def Tally.count (labels : String × String) : Tally → Nat
  | [] => 0
  | (l, n) :: rest => if l = labels then n else Tally.count labels rest

/-- The sum of all counts. -/
def Tally.total : Tally → Nat
  | [] => 0
  | (_, n) :: rest => n + Tally.total rest

/-- Observed durations: how many fell into each bucket and not into an earlier one, how many
exceeded all bounds, and their sum. -/
structure Histogram where
  buckets : List Nat
  above : Nat
  sum : Float

namespace Histogram

/-- The upper bounds of the buckets, in seconds. -/
def bounds : List Float := [0.001, 0.005, 0.01, 0.05, 0.1, 0.5, 1.0, 5.0]

def empty : Histogram := ⟨bounds.map fun _ => 0, 0, 0⟩

/-- Counts a duration in the first bucket whose bound it does not exceed; `none` if it exceeds all. -/
def place (x : Float) : List (Float × Nat) → Option (List Nat)
  | [] => none
  | (bound, n) :: rest =>
    if x ≤ bound then some ((n + 1) :: rest.map (·.2)) else (place x rest).map (n :: ·)

def observe (h : Histogram) (x : Float) : Histogram :=
  match place x (bounds.zip h.buckets) with
  | some buckets => { h with buckets := buckets, sum := h.sum + x }
  | none => { h with above := h.above + 1, sum := h.sum + x }

/-- Counts up to each bound. -/
def cumulative (start : Nat) : List Nat → List Nat
  | [] => []
  | n :: rest => (start + n) :: cumulative (start + n) rest

/-- The number of observations. -/
def count (h : Histogram) : Nat :=
  h.buckets.foldr (· + ·) h.above

end Histogram

structure Metrics where
  renders : Tally := []
  durations : Keyed Histogram := Keyed.empty
  cacheHits : Nat := 0
  cacheMisses : Nat := 0
  compilations : Nat := 0
  errors : Tally := []

namespace Metrics

/-- Records a render call that ended. -/
def recordRender (m : Metrics) (kind status : String) (duration : Float) : Metrics :=
  { m with
    renders := Tally.add (kind, status) m.renders
    durations := m.durations.insert kind
      (((m.durations.get? kind).getD Histogram.empty).observe duration) }

def recordCacheHit (m : Metrics) : Metrics :=
  { m with cacheHits := m.cacheHits + 1 }

def recordCacheMiss (m : Metrics) : Metrics :=
  { m with cacheMisses := m.cacheMisses + 1 }

def recordCompilation (m : Metrics) : Metrics :=
  { m with compilations := m.compilations + 1 }

def recordError (m : Metrics) (kind stage : String) : Metrics :=
  { m with errors := Tally.add (kind, stage) m.errors }

/-! ## Recording by name -/

/-- The parameters of a method that records something. -/
def signature? (method : String) : Option Signature :=
  let of (names : List String) : Option Signature :=
    some (Signature.of ("MetricsCollector." ++ method)
      (("self", none) :: names.map fun n => (n, none)))
  match method with
  | "record_render" => of ["kind", "status", "duration"]
  | "record_error" => of ["error_type", "stage"]
  | "record_cache_hit" | "record_cache_miss" | "record_compilation" | "get_metrics" => of []
  | _ => none

/-- A duration that a caller gives; only numbers can be added up. -/
def durationOf (v : Value) : Except Fault Float :=
  match v.number? with
  | some (.int n) => Arithmetic.double n
  | some (.float x) => .ok x
  | _ => .error (unsupported "+=" (.float 0) v)

/-- Calls a method by its name. -/
def record (m : Metrics) (method : String) (args : List Value) : Except Fault Metrics := do
  match signature? method with
  | none =>
    if ["renders_total", "cache_hits", "cache_misses", "compilations", "errors_total"].contains
        method then
      throw (.notCallable "Counter")
    else if method == "render_duration" then throw (.notCallable "Histogram")
    else throw (.noAttribute "MetricsCollector" method)
  | some s =>
    match method, ← s.bind ⟨.none :: args, []⟩ with
    | "record_render", [_, kind, status, duration] =>
      return m.recordRender (← kind.shown) (← status.shown) (← durationOf duration)
    | "record_error", [_, kind, stage] => return m.recordError (← kind.shown) (← stage.shown)
    | "record_cache_hit", _ => return m.recordCacheHit
    | "record_cache_miss", _ => return m.recordCacheMiss
    | "record_compilation", _ => return m.recordCompilation
    | _, _ => return m

/-! ## Exposition -/

/-- Sample values are doubles; from seven integral digits on they are written with an exponent. -/
def sample (x : Float) : String :=
  let text := { Decimal.Layout.value with infinity := "Inf", notANumber := "NaN" }.text x
  let text := if x.isInf && x > 0 then "+" ++ text else text
  let whole := text.toList.takeWhile (· != '.')
  if x > 0 && text.any (· == '.') && whole.length > 6 then
    let digits := whole ++ (text.toList.drop (whole.length + 1))
    let kept := (digits.drop 1).reverse.dropWhile (· == '0') |>.reverse
    String.ofList (digits.take 1 ++ (if kept.isEmpty then [] else '.' :: kept)) ++ "e+0"
      ++ toString (whole.length - 1)
  else text

/-- Label values escape the backslash, the line feed and the double quote. -/
def label (name value : String) : String :=
  let escaped := value.foldl (fun text c =>
    text ++ (if c == '\\' then "\\\\" else if c == '\n' then "\\n"
      else if c == '"' then "\\\"" else c.toString)) ""
  name ++ "=\"" ++ escaped ++ "\""

def series (name : String) (labels : List String) (x : Float) : String :=
  name ++ (if labels.isEmpty then "" else "\x7b" ++ String.intercalate "," labels ++ "\x7d")
    ++ " " ++ sample x

/-- The two lines that introduce a metric. -/
def header (name help kind : String) : List String :=
  ["# HELP " ++ name ++ " " ++ help, "# TYPE " ++ name ++ " " ++ kind]

def tallySeries (name first second : String) (t : Tally) : List String :=
  t.map fun e => series name [label first e.1.1, label second e.1.2] (Float.ofNat e.2)

def durationName : String := "viewkit_render_duration_seconds"

def histogramSeries (kind : String) (h : Histogram) : List String :=
  let counts := Histogram.cumulative 0 (h.buckets ++ [h.above])
  let bounds := Histogram.bounds.map sample ++ ["+Inf"]
  (bounds.zip counts).map (fun e =>
    series (durationName ++ "_bucket") [label "kind" kind, label "le" e.1] (Float.ofNat e.2))
  ++ [series (durationName ++ "_count") [label "kind" kind] (Float.ofNat h.count),
    series (durationName ++ "_sum") [label "kind" kind] h.sum]

def counterLines (name help : String) (n : Nat) : List String :=
  header name help "counter" ++ [series name [] (Float.ofNat n)]

/-- All lines of the exposition. -/
def lines (m : Metrics) : List String :=
  header "viewkit_renders_total" "Total number of render calls" "counter"
    ++ tallySeries "viewkit_renders_total" "kind" "status" m.renders
    ++ header durationName "Render duration in seconds" "histogram"
    ++ m.durations.entries.flatMap (fun e => histogramSeries e.1 e.2)
    ++ counterLines "viewkit_template_cache_hits_total"
      "Total number of compiled template cache hits" m.cacheHits
    ++ counterLines "viewkit_template_cache_misses_total"
      "Total number of compiled template cache misses" m.cacheMisses
    ++ counterLines "viewkit_template_compilations_total"
      "Total number of template compilations" m.compilations
    ++ header "viewkit_errors_total" "Total number of render errors" "counter"
    ++ tallySeries "viewkit_errors_total" "error_type" "stage" m.errors

/-- Whether a line depends on measured time. -/
def isTimed (line : String) : Bool :=
  line.startsWith (durationName ++ "_bucket") || line.startsWith (durationName ++ "_sum")

/-- The samples that do not depend on measured time. -/
def untimedSamples (m : Metrics) : List String :=
  m.lines.filter fun line => !line.startsWith "#" && !isTimed line

end Metrics

end PageComposer
