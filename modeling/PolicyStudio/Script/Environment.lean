import PolicyStudio.Script.Object

/-!
# The surroundings of a program

What a program finds without having defined it: functions, classes and kinds of
errors, each under its name.  Names that begin with an underscore are there for
the interpreter only; programs cannot write them.
-/

namespace PolicyStudio
namespace Script

/-- The kinds of errors that programs know.  Those that would end the host are
not among them. -/
def publicErrors : List ErrorKind :=
  [.arithmetic, .assertion, .attribute, .base, .buffer, .bytesWarning, .deprecationWarning,
    .endOfFile, .exception, .floatingPoint, .futureWarning, .importing, .importWarning,
    .indentation, .index, .key, .lookup, .memory, .unknownName, .notImplemented, .os, .overflow,
    .pendingDeprecationWarning, .reference, .runtime, .runtimeWarning, .stopIteration, .badSyntax,
    .syntaxWarning, .system, .tab, .type, .unboundLocal, .unicodeDecode, .unicodeEncode,
    .unicode, .unicodeTranslate, .unicodeWarning, .userWarning, .value, .warning, .zeroDivision]

theorem isNamed_of_mem_publicErrors :
    ∀ kind ∈ publicErrors, (ClassValue.error kind).isNamed = true := by
  decide

/-- The functions by the name under which programs call them. -/
def publicFunctions : List (String × BuiltinFunction) :=
  [("__build_class__", .buildClass), ("_getattr_", .getattr), ("abs", .abs), ("all", .all),
    ("any", .any), ("callable", .callable), ("chr", .chr), ("delattr", .delattr),
    ("divmod", .divmod), ("hash", .hash), ("hex", .hex), ("id", .id),
    ("isinstance", .isinstance), ("issubclass", .issubclass), ("len", .len), ("max", .max),
    ("min", .min), ("oct", .oct), ("ord", .ord), ("pow", .pow), ("repr", .repr),
    ("round", .round), ("setattr", .setattr), ("sum", .sum)]

/-- The classes of built-in values that programs know. -/
def publicTypes : List BasicType :=
  [.bool, .complex, .dict, .enumerate, .filter, .float, .int, .list, .map, .range, .set, .slice,
    .text]

/-- Everything that a program finds, under its name. -/
def environment : List (String × Value) :=
  publicFunctions.map (fun entry => (entry.1, .builtin entry.2)) ++
    publicTypes.map (fun kind => (kind.name, .classValue (.basic kind) rfl)) ++
    publicErrors.attach.map (fun ⟨kind, isPublic⟩ =>
      (kind.name, .classValue (.error kind) (isNamed_of_mem_publicErrors kind isPublic))) ++
    [("EnvironmentError", .classValue (.error .os) rfl),
      ("IOError", .classValue (.error .os) rfl), ("Ellipsis", .ellipsis),
      ("False", .bool false), ("None", .none), ("True", .bool true)]

/-- The names in the environment, in alphabetical order. -/
def environmentNames : List String :=
  (environment.map (·.1)).mergeSort fun a b => decide (a ≤ b)

/-- The names of what the interpreter itself uses, in alphabetical order. -/
def guardNames : List String :=
  ["__name__", "_apply_", "_getattr_", "_getitem_", "_getiter_", "_inplacevar_",
    "_iter_unpack_sequence_", "_print_", "_unpack_sequence_", "_write_"]

end Script
end PolicyStudio
