/-!
# Kinds of errors

Errors form a tree: a handler for one kind also handles the kinds below it.  All
kinds have a name, under which programs know the public ones.
-/

namespace PolicyStudio
namespace Script

/-- The kinds of errors. -/
inductive ErrorKind where
  | base
  | systemExit
  | keyboardInterrupt
  | generatorExit
  | exception
  | stopIteration
  | stopAsyncIteration
  | arithmetic
  | floatingPoint
  | overflow
  | zeroDivision
  | assertion
  | attribute
  | buffer
  | endOfFile
  | importing
  | moduleNotFound
  | lookup
  | index
  | key
  | memory
  | unknownName
  | unboundLocal
  | os
  | blockingInput
  | childProcess
  | connection
  | brokenPipe
  | connectionAborted
  | connectionRefused
  | connectionReset
  | fileExists
  | fileNotFound
  | interrupted
  | isDirectory
  | notDirectory
  | permission
  | processLookup
  | timeout
  | scriptTimeout
  | reference
  | runtime
  | notImplemented
  | recursion
  | badSyntax
  | indentation
  | tab
  | system
  | type
  | value
  | unicode
  | unicodeDecode
  | unicodeEncode
  | unicodeTranslate
  | policyDefinition
  | bindingRegistry
  | warning
  | bytesWarning
  | deprecationWarning
  | encodingWarning
  | futureWarning
  | importWarning
  | pendingDeprecationWarning
  | resourceWarning
  | runtimeWarning
  | syntaxWarning
  | unicodeWarning
  | userWarning
  | unprintable
deriving Repr, DecidableEq

namespace ErrorKind

/-- The name of a kind. -/
def name : ErrorKind → String
  | .base => "BaseException"
  | .systemExit => "SystemExit"
  | .keyboardInterrupt => "KeyboardInterrupt"
  | .generatorExit => "GeneratorExit"
  | .exception => "Exception"
  | .stopIteration => "StopIteration"
  | .stopAsyncIteration => "StopAsyncIteration"
  | .arithmetic => "ArithmeticError"
  | .floatingPoint => "FloatingPointError"
  | .overflow => "OverflowError"
  | .zeroDivision => "ZeroDivisionError"
  | .assertion => "AssertionError"
  | .attribute => "AttributeError"
  | .buffer => "BufferError"
  | .endOfFile => "EOFError"
  | .importing => "ImportError"
  | .moduleNotFound => "ModuleNotFoundError"
  | .lookup => "LookupError"
  | .index => "IndexError"
  | .key => "KeyError"
  | .memory => "MemoryError"
  | .unknownName => "NameError"
  | .unboundLocal => "UnboundLocalError"
  | .os => "OSError"
  | .blockingInput => "BlockingIOError"
  | .childProcess => "ChildProcessError"
  | .connection => "ConnectionError"
  | .brokenPipe => "BrokenPipeError"
  | .connectionAborted => "ConnectionAbortedError"
  | .connectionRefused => "ConnectionRefusedError"
  | .connectionReset => "ConnectionResetError"
  | .fileExists => "FileExistsError"
  | .fileNotFound => "FileNotFoundError"
  | .interrupted => "InterruptedError"
  | .isDirectory => "IsADirectoryError"
  | .notDirectory => "NotADirectoryError"
  | .permission => "PermissionError"
  | .processLookup => "ProcessLookupError"
  | .timeout => "TimeoutError"
  | .scriptTimeout => "ScriptTimeoutError"
  | .reference => "ReferenceError"
  | .runtime => "RuntimeError"
  | .notImplemented => "NotImplementedError"
  | .recursion => "RecursionError"
  | .badSyntax => "SyntaxError"
  | .indentation => "IndentationError"
  | .tab => "TabError"
  | .system => "SystemError"
  | .type => "TypeError"
  | .value => "ValueError"
  | .unicode => "UnicodeError"
  | .unicodeDecode => "UnicodeDecodeError"
  | .unicodeEncode => "UnicodeEncodeError"
  | .unicodeTranslate => "UnicodeTranslateError"
  | .policyDefinition => "PolicyDefinitionError"
  | .bindingRegistry => "BindingRegistryError"
  | .warning => "Warning"
  | .bytesWarning => "BytesWarning"
  | .deprecationWarning => "DeprecationWarning"
  | .encodingWarning => "EncodingWarning"
  | .futureWarning => "FutureWarning"
  | .importWarning => "ImportWarning"
  | .pendingDeprecationWarning => "PendingDeprecationWarning"
  | .resourceWarning => "ResourceWarning"
  | .runtimeWarning => "RuntimeWarning"
  | .syntaxWarning => "SyntaxWarning"
  | .unicodeWarning => "UnicodeWarning"
  | .userWarning => "UserWarning"
  | .unprintable => "Unprintable"

/-- The kind directly above. -/
def parent? : ErrorKind → Option ErrorKind
  | .base => none
  | .systemExit | .keyboardInterrupt | .generatorExit | .exception => some .base
  | .stopIteration | .stopAsyncIteration | .arithmetic | .assertion | .attribute | .buffer |
    .endOfFile | .importing | .lookup | .memory | .unknownName | .os | .reference | .runtime |
    .badSyntax | .system | .type | .value | .warning | .unprintable => some .exception
  | .floatingPoint | .overflow | .zeroDivision => some .arithmetic
  | .moduleNotFound => some .importing
  | .index | .key => some .lookup
  | .unboundLocal => some .unknownName
  | .blockingInput | .childProcess | .connection | .fileExists | .fileNotFound | .interrupted |
    .isDirectory | .notDirectory | .permission | .processLookup | .timeout => some .os
  | .brokenPipe | .connectionAborted | .connectionRefused | .connectionReset => some .connection
  | .scriptTimeout => some .timeout
  | .notImplemented | .recursion => some .runtime
  | .indentation => some .badSyntax
  | .tab => some .indentation
  | .unicode | .policyDefinition | .bindingRegistry => some .value
  | .unicodeDecode | .unicodeEncode | .unicodeTranslate => some .unicode
  | .bytesWarning | .deprecationWarning | .encodingWarning | .futureWarning | .importWarning |
    .pendingDeprecationWarning | .resourceWarning | .runtimeWarning | .syntaxWarning |
    .unicodeWarning | .userWarning => some .warning

/-- Programs can raise such an error by themselves.  The one that they cannot is meant for
the host. -/
def isOwn : ErrorKind → Bool
  | .keyboardInterrupt => false
  | _ => true

theorem eq_keyboardInterrupt_of_not_isOwn {kind : ErrorKind} (foreign : ¬kind.isOwn = true) :
    kind = .keyboardInterrupt := by
  unfold isOwn at foreign
  split at foreign
  · rfl
  · exact absurd rfl foreign

/-- All kinds, from the root downwards. -/
def all : List ErrorKind :=
  [.base, .systemExit, .keyboardInterrupt, .generatorExit, .exception, .stopIteration,
   .stopAsyncIteration, .arithmetic, .floatingPoint, .overflow, .zeroDivision, .assertion,
   .attribute, .buffer, .endOfFile, .importing, .moduleNotFound, .lookup, .index, .key, .memory,
   .unknownName, .unboundLocal, .os, .blockingInput, .childProcess, .connection, .brokenPipe,
   .connectionAborted, .connectionRefused, .connectionReset, .fileExists, .fileNotFound,
   .interrupted, .isDirectory, .notDirectory, .permission, .processLookup, .timeout,
   .scriptTimeout, .reference, .runtime, .notImplemented, .recursion, .badSyntax, .indentation,
   .tab, .system, .type, .value, .unicode, .unicodeDecode, .unicodeEncode, .unicodeTranslate,
   .policyDefinition, .bindingRegistry, .warning, .bytesWarning, .deprecationWarning,
   .encodingWarning, .futureWarning, .importWarning, .pendingDeprecationWarning,
   .resourceWarning, .runtimeWarning, .syntaxWarning, .unicodeWarning, .userWarning,
   .unprintable]

/-- The kind of a name. -/
def ofName? (name : String) : Option ErrorKind :=
  all.find? fun kind => kind.name == name

/-- Climb at most so many steps. -/
def isBelow (kind above : ErrorKind) : Nat → Bool
  | 0 => kind == above
  | steps + 1 => kind == above || match kind.parent? with
    | some parent => isBelow parent above steps
    | none => false

/-- The first kind is the second one or stands below it.  The tree is five steps
high. -/
def isKindOf (kind above : ErrorKind) : Bool :=
  isBelow kind above 5

/-- How many arguments an error of a kind is made from, if that is fixed. -/
def argumentCount? : ErrorKind → Option Nat
  | .unicodeDecode | .unicodeEncode => some 5
  | .unicodeTranslate => some 4
  | _ => none

end ErrorKind

end Script
end PolicyStudio
