import HiveScript.Calendar.DateTime
import HiveScript.Text.Quoted

/-!
# Failures

What goes wrong without being foreseen: settings of a wrong type, numerals that are none, errors
of the file system. A failure says what happened, and has a class and a message under which it is
reported.

* `FileError`: why the file system refused an operation.
* `Failure`: the causes, with `Failure.className` and `Failure.message`.
-/

namespace HiveScript

/-! ## Errors of the file system -/

/-- Why the file system refuses an operation. -/
inductive FileProblem where
  | notPermitted
  | noEntry
  | denied
  | busy
  | alreadyThere
  | notDirectory
  | isDirectory
  | invalid
  | nameTooLong
  | notEmpty
  deriving DecidableEq

namespace FileProblem

/-- The number of a problem in messages. -/
def number : FileProblem → Nat
  | notPermitted => 1
  | noEntry => 2
  | denied => 13
  | busy => 16
  | alreadyThere => 17
  | notDirectory => 20
  | isDirectory => 21
  | invalid => 22
  | nameTooLong => 36
  | notEmpty => 39

def message : FileProblem → Text
  | notPermitted => "Operation not permitted"
  | noEntry => "No such file or directory"
  | denied => "Permission denied"
  | busy => "Device or resource busy"
  | alreadyThere => "File exists"
  | notDirectory => "Not a directory"
  | isDirectory => "Is a directory"
  | invalid => "Invalid argument"
  | nameTooLong => "File name too long"
  | notEmpty => "Directory not empty"

end FileProblem

/-- The classes of errors with a number of their own class; all others are of the common class. -/
def systemClasses : List (List Int × String) := [
    ([1, 13], "PermissionError"), ([2], "FileNotFoundError"), ([3], "ProcessLookupError"),
    ([4], "InterruptedError"), ([10], "ChildProcessError"), ([11, 114, 115], "BlockingIOError"),
    ([17], "FileExistsError"), ([20], "NotADirectoryError"), ([21], "IsADirectoryError"),
    ([32, 108], "BrokenPipeError"), ([103], "ConnectionAbortedError"),
    ([104], "ConnectionResetError"), ([110], "TimeoutError"), ([111], "ConnectionRefusedError")]

/-- The class of a system error of some number. -/
def systemClass (number : Int) : Text :=
  match systemClasses.find? fun c => c.1.contains number with
  | some c => c.2
  | none => "OSError"

/-- A refusal, with the path that it concerns and, of a renaming, the path it should have got. -/
structure FileError where
  problem : FileProblem
  path : Text
  goal : Option Text
  deriving DecidableEq

namespace FileError

def className (e : FileError) : Text := systemClass e.problem.number

def message (e : FileError) : Text :=
  "[Errno " ++ Numeral.decimal e.problem.number ++ "] " ++ e.problem.message ++ ": " ++
    e.path.quoted ++
    (match e.goal with
    | none => []
    | some goal => " -> " ++ goal.quoted)

end FileError

/-! ## Failures -/

/-- What can go wrong without being foreseen. -/
inductive Failure where
  /-- Something is added to a sequence that is no such sequence. -/
  | notConcatenable (sequence other : Text)
  | notAddable (left right : Text)
  | notComparable (left right : Text)
  /-- A time with and one without its difference to universal time are compared. -/
  | mixedOffsets
  /-- A time and a day are compared. -/
  | dateWithTime
  | notIterable (type : Text)
  | noMember (type member : Text)
  | notPath (type : Text)
  | notInteger (type : Text)
  /-- A count is no integer. -/
  | notCount (type : Text)
  /-- A count of this type is too great. -/
  | countTooGreat (type : Text)
  /-- A key of this type has no written form. -/
  | unfitKey (type : Text)
  /-- A fault of this kind has no line. -/
  | noLine
  | malformedNumeral (base : Nat) (s : Text)
  | malformedNumber (s : Text)
  /-- A decimal numeral of this many digits is not read. -/
  | numeralTooLong (digits : Nat)
  /-- A decimal numeral is not written. -/
  | numeralNotWritten
  | undefinedInteger
  | infiniteInteger
  /-- An integer is beyond the range of floating point numbers. -/
  | integerTooGreat
  /-- A point of a text that has none is asked for. -/
  | emptyText
  /-- Numbers are no day or no time. -/
  | calendar (e : CalendarError)
  /-- A number is beyond the last point. -/
  | pointOutOfRange
  /-- A number is far beyond the last point. -/
  | pointTooGreat
  | unknownPropertyType (name : Text)
  /-- A name stands for nothing. -/
  | unknownName (name : Text)
  | unknownEncoding (name : Text)
  /-- A name stands for an encoding of something other than text. -/
  | notTextEncoding (name : Text)
  | nullInName
  /-- A text is nested too deeply; `activity` tells what was done with it. -/
  | tooDeep (activity : Text)
  | embeddedNull
  | homeUnknown
  /-- A strict stream cannot write a run of surrogates. -/
  | unencodable (first : Point) (start length : Nat)
  | file (e : FileError)
  /-- A failure of some other class. -/
  | foreign (className message : Text)
  deriving DecidableEq

namespace Failure

/-- The class under which a failure is reported. -/
def className : Failure → Text
  | notConcatenable .. | notAddable .. | notComparable .. | mixedOffsets | dateWithTime
  | notIterable _ | notPath _ | notInteger _ | notCount _ | unfitKey _ | noLine => "TypeError"
  | noMember .. => "AttributeError"
  | countTooGreat _ | malformedNumeral .. | malformedNumber _ | numeralTooLong _
  | numeralNotWritten | undefinedInteger | calendar _ | pointOutOfRange | unknownPropertyType _
  | embeddedNull | nullInName => "ValueError"
  | infiniteInteger | integerTooGreat | pointTooGreat => "OverflowError"
  | emptyText => "IndexError"
  | unknownName _ => "KeyError"
  | unknownEncoding _ | notTextEncoding _ => "LookupError"
  | tooDeep _ => "RecursionError"
  | homeUnknown => "RuntimeError"
  | unencodable .. => "UnicodeEncodeError"
  | file e => e.className
  | foreign c _ => c

/-- The failure says that a value is wrong. -/
def isOfValue (f : Failure) : Bool := f.className = "ValueError"

/-- A word in quotes. -/
def named (s : Text) : Text := [Point.apostrophe] ++ s ++ [Point.apostrophe]

/-- The advice for numerals that are too long. -/
def limitAdvice : Text := "; use sys.set_int_max_str_digits() to increase the limit"

def limitMessage : Text :=
  "Exceeds the limit (" ++ Numeral.decimal Numeral.maxDigits ++
    " digits) for integer string conversion"

/-- The longest part of a malformed numeral that is shown, with its quotes. -/
def shownNumeral : Nat := 200

def message : Failure → Text
  | notConcatenable sequence other =>
    "can only concatenate " ++ sequence ++ " (not \"" ++ other ++ "\") to " ++ sequence
  | notAddable left right =>
    "unsupported operand type(s) for +: " ++ named left ++ " and " ++ named right
  | notComparable left right =>
    "'<' not supported between instances of " ++ named left ++ " and " ++ named right
  | mixedOffsets => "can't compare offset-naive and offset-aware datetimes"
  | dateWithTime => "can't compare datetime.datetime to datetime.date"
  | notIterable type => named type ++ " object is not iterable"
  | noMember type member => named type ++ " object has no attribute " ++ named member
  | notPath type => "expected str, bytes or os.PathLike object, not " ++ type
  | notInteger type =>
    "int() argument must be a string, a bytes-like object or a real number, not " ++ named type
  | notCount type => named type ++ " object cannot be interpreted as an integer"
  | countTooGreat type => "cannot fit " ++ named type ++ " into an index-sized integer"
  | unfitKey type => "keys must be str, int, float, bool or None, not " ++ type
  | noLine => "Reg2PsError.__init__() got an unexpected keyword argument 'line'"
  | malformedNumeral base s =>
    "invalid literal for int() with base " ++ Numeral.decimal base ++ ": " ++
      s.quoted.take shownNumeral
  | malformedNumber s => "could not convert string to float: " ++ s.quoted
  | numeralTooLong digits =>
    limitMessage ++ ": value has " ++ Numeral.decimal digits ++ " digits" ++ limitAdvice
  | numeralNotWritten => limitMessage ++ limitAdvice
  | undefinedInteger => "cannot convert float NaN to integer"
  | infiniteInteger => "cannot convert float infinity to integer"
  | unknownPropertyType name => name.quoted ++ " is not a valid PropertyType"
  | integerTooGreat => "int too large to convert to float"
  | calendar e => e.message
  | emptyText => "string index out of range"
  | pointOutOfRange => "chr() arg not in range(0x110000)"
  | pointTooGreat => "Python int too large to convert to C int"
  | unknownName name => name.quoted
  | unknownEncoding name => "unknown encoding: " ++ name
  | notTextEncoding name =>
    named name ++ " is not a text encoding; use codecs.open() to handle arbitrary codecs"
  | nullInName => "embedded null character"
  | tooDeep activity => "maximum recursion depth exceeded" ++ activity
  | embeddedNull => "embedded null byte"
  | homeUnknown => "Could not determine home directory."
  | unencodable first start length =>
    if length = 1 then
      "'utf-8' codec can't encode character '" ++ first.escape ++ "' in position " ++
        Numeral.decimal start ++ ": surrogates not allowed"
    else
      "'utf-8' codec can't encode characters in position " ++ Numeral.decimal start ++ "-" ++
        Numeral.decimal (start + length - 1) ++ ": surrogates not allowed"
  | file e => e.message
  | foreign _ message => message

end Failure

end HiveScript
