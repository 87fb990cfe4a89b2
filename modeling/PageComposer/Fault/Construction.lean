import PageComposer.Signature

/-!
# Making faults by name

Faults whose class is named by a caller, who gives the arguments that the class is made from. What
the class makes of them can itself fail, and is the fault then.
-/

namespace PageComposer.Fault

/-- The parameters of the classes that have some of their own. -/
def classSignature? : String → Option Signature
  | "ViewError" => some (Signature.of "ViewError.__init__" [("self", none), ("message", none)])
  | "NotFoundError" =>
    some (Signature.of "NotFoundError.__init__"
      [("self", none), ("name", none), ("registry", some (.str "component"))])
  | "ValidationError" =>
    some (Signature.of "ValidationError.__init__"
      [("self", none), ("component", none), ("reason", none)])
  | _ => none

/-- A fault of a named class. -/
def construct (kind : String) (args : List Value) : Except Fault Fault := do
  match classSignature? kind with
  | none => return .raised kind (args.head?.getD .none)
  | some s =>
    match kind, ← s.bind ⟨.none :: args, []⟩ with
    | "NotFoundError", [_, name, registry] =>
      match registry.text? with
      | none => throw (.noAttribute registry.typeName "capitalize")
      | some registry =>
        let _ ← name.shown
        return .notFound name registry
    | "ValidationError", [_, component, reason] =>
      let _ ← component.shown
      let _ ← reason.shown
      return .rejected component reason
    | _, [_, message] => return .raised kind message
    | _, _ => return .raised kind .none

/-- What a fault says as its own attribute: its message, or the value that it was given for one. -/
def statement : Fault → Value
  | .raised "ViewError" argument => argument
  | e => .str e.message

end PageComposer.Fault
