/-!
# Vocabulary

The names of the filters and tests that templates can use, and of the functions that they find among
their variables.
-/

namespace PageComposer.Template

/-- The names of all filters. -/
def filterNames : List String :=
  ["abs", "attr", "batch", "capitalize", "center", "count", "d", "default", "dictsort", "e", "escape",
    "filesizeformat", "first", "float", "forceescape", "format", "groupby", "indent", "int", "items",
    "join", "last", "length", "list", "lower", "map", "max", "min", "pprint", "random", "reject",
    "rejectattr", "replace", "reverse", "round", "safe", "select", "selectattr", "slice", "sort",
    "string", "striptags", "sum", "title", "tojson", "trim", "truncate", "unique", "upper",
    "urlencode", "urlize", "wordcount", "wordwrap", "xmlattr"]

/-- The names of all tests. -/
def testNames : List String :=
  ["boolean", "callable", "defined", "divisibleby", "escaped", "even", "false", "filter", "float",
    "in", "integer", "iterable", "lower", "mapping", "none", "number", "odd", "sameas", "sequence",
    "string", "test", "true", "undefined", "upper", "==", "eq", "equalto", "!=", "ne", ">", "gt",
    "greaterthan", ">=", "ge", "<", "lt", "lessthan", "<=", "le"]

/-- The functions and classes that every template finds. -/
def globalNames : List String :=
  ["range", "dict", "lipsum", "cycler", "joiner", "namespace"]

end PageComposer.Template
