import HiveScript.Encoding.Name
import HiveScript.Fault.Failure

/-!
# Streams

Where a run writes text to, and what it reads.

* `Stream.inEncoding`: a new stream in an encoding of some name.
* `Stream.write`: adds text to a stream, if the stream takes it.
* `Stream.octets`: what was written.
* `Input`: what stands ready to be read.
-/

namespace HiveScript

/-- What a stream does with points that its encoding cannot say. -/
inductive StreamPolicy where
  /-- The encoding is UTF-8, and text with surrogates is refused. -/
  | strict
  /-- They are written as backslash escapes. -/
  | escaping (e : Encoding)
  /-- The stream holds text, and takes all of it. -/
  | verbatim
  deriving DecidableEq

/-- A stream of text. -/
structure Stream where
  policy : StreamPolicy
  isTerminal : Bool
  written : Text

/-- The encoding of a name, or of the place if that is the name. -/
def Encoding.named (name : Text) : Except Failure Encoding :=
  if let some run := Utf8.surrogateRun? name then
    .error (.unencodable run.first run.start run.length)
  else if name.contains Point.nul then .error .nullInName
  else if name = "locale" then .ok (utf8 false)
  else
    match ofName? name with
    | some e => .ok e
    | none => .error (if isOfOtherUse name then .notTextEncoding name else .unknownEncoding name)

namespace Stream

/-- A new stream that writes escapes for what its encoding cannot say. -/
def inEncoding (name : Text) (isTerminal : Bool) : Except Failure Stream :=
  (Encoding.named name).map fun e => ⟨.escaping e, isTerminal, []⟩

def write (s : Stream) (t : Text) : Except Failure Stream :=
  match s.policy, Utf8.surrogateRun? t with
  | .strict, some run => .error (.unencodable run.first run.start run.length)
  | _, _ => .ok { s with written := s.written ++ t }

/-- The octets of what was written. -/
def octets (s : Stream) : Bytes :=
  match s.policy with
  | .escaping e => e.encode s.written
  | _ => Utf8.encode s.written

/-- The stream can show a point. -/
def canShow (s : Stream) (p : Point) : Bool :=
  match s.policy with
  | .escaping e => e.has p
  | _ => true

end Stream

/-- What stands ready to be read. -/
inductive Input where
  | octets (bs : Bytes)
  | text (s : Text)
  /-- Someone interrupts the reading. -/
  | interrupted

end HiveScript
