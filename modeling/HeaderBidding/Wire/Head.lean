import HeaderBidding.Text.Segments
import HeaderBidding.Text.Utf8
import HeaderBidding.Wire.Token

/-!
# Heads of messages

A message begins with a line that says what it is. Headers follow, each on a line of its own, up to
an empty line.
-/

namespace HeaderBidding.Wire

/-- The head of a message. -/
structure Head where
  /-- What the message is: a request for a target, or an answer with a status. -/
  start : String
  /-- Names in lower case, with their values. -/
  headers : List (String × String)

/-- A line with its end. -/
def line (s : String) : String :=
  s ++ "\r\n"

/-- The bytes of a head. -/
def Head.bytes (head : Head) : List UInt8 :=
  let lines := head.start :: head.headers.map (fun (name, value) => name ++ ": " ++ value) ++ [""]
  Text.Utf8.encode ((lines.map line).flatMap String.toList)

/-- Cuts bytes behind the first empty line. -/
def cutHead? : List UInt8 → Option (List UInt8 × List UInt8)
  | 13 :: 10 :: 13 :: 10 :: rest => some ([], rest)
  | b :: rest => (cutHead? rest).map fun (head, after) => (b :: head, after)
  | [] => none

theorem cutHead?_shrinks {s head after : List UInt8} (h : cutHead? s = some (head, after)) :
    after.length < s.length := by
  fun_induction cutHead? s generalizing head with
  | case1 rest =>
    obtain ⟨-, rfl⟩ := Prod.mk.inj (Option.some.inj h)
    simp only [List.length_cons]
    omega
  | case2 b rest _ ih =>
    obtain ⟨⟨head', after'⟩, hr, he⟩ := Option.map_eq_some_iff.1 h
    obtain ⟨-, rfl⟩ := Prod.mk.inj he
    have := ih hr
    simp only [List.length_cons]
    omega
  | case3 => simp at h

/-- The header on a line. -/
def headerOf? (s : List Char) : Option (String × String) :=
  match s.takeWhile (· != ':'), s.dropWhile (· != ':') with
  | [], _ | _, [] => none
  | name, _ :: value =>
    some (String.ofList (name.map Char.toLower), String.ofList (trimmed value))

/-- Reads a head, without the empty line behind it. -/
def Head.ofBytes? (bytes : List UInt8) : Option Head :=
  match (Text.Utf8.decode? bytes).map (Text.segments '\n' <| ·.filter (· != '\r')) with
  | some (start :: lines) =>
    (lines.mapM headerOf?).map fun headers => { start := String.ofList start, headers }
  | _ => none

/-- The words of the first line. -/
def Head.words (head : Head) : List String :=
  (Text.segments ' ' head.start.toList).map String.ofList

end HeaderBidding.Wire
