import PageComposer.Value.Arithmetic

/-!
# Syntax

Templates as trees. Expressions refer to variables by `ν`: by name where a template has just been
read, and by place where its scopes are known. They name the filters and tests that they use; whether
these exist is checked when a template is compiled.
-/

namespace PageComposer.Template

inductive CompareOp where
  | eq
  | ne
  | lt
  | le
  | gt
  | ge
  | isIn
  | notIn
deriving DecidableEq, Repr

mutual

inductive Expr (ν : Type) where
  | const (value : Value)
  | name (s : ν)
  | list (items : List (Expr ν))
  | tuple (items : List (Expr ν))
  | dict (entries : List (Expr ν × Expr ν))
  | unary (op : UnaryOp) (a : Expr ν)
  | binary (op : BinaryOp) (a b : Expr ν)
  /-- The joined texts of the parts. -/
  | concat (parts : List (Expr ν))
  /-- A chain of comparisons, each against the operand of the one before it. -/
  | compare (first : Expr ν) (rest : List (CompareOp × Expr ν))
  | both (a b : Expr ν)
  | either (a b : Expr ν)
  | not (a : Expr ν)
  /-- `line` is named when there is no alternative and the condition is false. -/
  | choice (condition yes : Expr ν) (no : Option (Expr ν)) (line : Nat)
  | member (of : Expr ν) (name : String)
  | item (of key : Expr ν)
  /-- The bounds of a slice; only a subscript can be one. -/
  | slice (start stop step : Option (Expr ν))
  | call (fn : Expr ν) (args : List (Argument ν))
  | filter (input : Expr ν) (name : String) (args : List (Argument ν)) (line : Nat)
  | test (input : Expr ν) (name : String) (args : List (Argument ν)) (line : Nat)
  /-- What an enclosing filter statement has gathered. -/
  | gathered
  /-- What calls back to the body of an enclosing call statement. -/
  | callback
  /-- A place among the attributes of a namespace; it is only assigned to. -/
  | place (space : ν) (slot : String)

inductive Argument (ν : Type) where
  | positional (value : Expr ν)
  | named (name : String) (value : Expr ν)
  /-- All items of a value, as positional arguments. -/
  | spread (items : Expr ν)
  /-- All entries of a dictionary, as named arguments. -/
  | spreadNamed (entries : Expr ν)
  /-- Named arguments some of which have reserved names, and all entries of a dictionary. Of several that
  have one name the last counts. -/
  | reserved (entries : List (String × Expr ν)) (more : Option (Expr ν))

end

instance {ν : Type} : Inhabited (Expr ν) := ⟨.const .none⟩

/-- What an assignment binds. -/
inductive Target (ν : Type) where
  | name (s : ν) (line : Nat)
  | place (space : ν) (slot : String)
  | tuple (items : List (Target ν))

instance {ν : Type} : Inhabited (Target ν) := ⟨.tuple []⟩

/-- A part of the output between two statements. -/
inductive Part where
  | data (text : String)
  | print (e : Expr String)

/-- A parameter of a routine, with its default. -/
structure Parameter where
  name : String
  fallback : Option (Expr String)

inductive Stmt where
  | output (parts : List Part)
  /-- The first branch whose condition holds, or else the last body. -/
  | branch (condition : Expr String) (body : List Stmt) (others : List (Expr String × List Stmt))
      (otherwise : List Stmt)
  | loop (target : Target String) (items : Expr String) (filter : Option (Expr String))
      (recursive : Bool) (body otherwise : List Stmt) (line : Nat)
  | assign (target : Target String) (value : Expr String)
  /-- Assigns the output of the body, passed through filters. -/
  | capture (target : Target String) (filter : Option (Expr String)) (body : List Stmt)
  | bind (bindings : List (Target String × Expr String)) (body : List Stmt)
  /-- Defines a routine that templates can call. -/
  | routine (name : String) (parameters : List Parameter) (body : List Stmt) (line : Nat)
  /-- Calls a routine that can call back to the body. -/
  | callWith (call : Expr String) (parameters : List Parameter) (body : List Stmt) (line : Nat)
  /-- Passes the output of the body through filters. -/
  | filtered (filter : Expr String) (body : List Stmt)
  /-- Switches escaping for the body. -/
  | escaping (mode : Expr String) (body : List Stmt)
  /-- A named part of the template. An open one sees the variables around it. -/
  | block (name : String) (isOpen isRequired : Bool) (body : List Stmt) (line : Nat)
  /-- Names the template that this one fills in. -/
  | derive (template : Expr String) (line : Nat)
  /-- Puts out another template. `lenient` says that it may be absent, `isOpen` that it sees the variables
  around it. -/
  | embed (template : Expr String) (lenient isOpen : Bool)
  /-- Takes over another template, or parts of it, under the names that are listed. -/
  | imports (template : Expr String) (names : List String) (parts : Bool)

instance : Inhabited Stmt := ⟨.output []⟩

end PageComposer.Template
