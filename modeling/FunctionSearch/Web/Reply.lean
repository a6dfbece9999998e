import FunctionSearch.Number.Decimal
import FunctionSearch.Text.Blank
import FunctionSearch.Text.Utf8

/-!
# Replies

What a server sends back: a line with a status, fields, an empty line and a body.

* `Reply.Head` and `Reply.readHead?`: what stands in front of the body;
* `Reply.Framing` and `Reply.framing?`: how the end of the body is found;
* `Reply.chunks?`: the body that comes in pieces, each behind its length;
* `Reply.read` and `Reply.write`: the reply that a stream of bytes holds, and a stream that holds
  it.

A line ends in a line feed, with or without a carriage return in front of it. Statuses from 100 on,
but 101, announce that the reply is still to come.
-/

namespace FunctionSearch.Web

/-- An answer to a request. -/
structure Reply where
  status : Nat
  body : Bytes
  deriving DecidableEq, Repr

namespace Reply

/-- Why a stream holds no reply. -/
inductive Fault where
  /-- The status or a field cannot be read, or is missing. -/
  | malformed
  /-- The body ends too early, or its pieces cannot be told apart. -/
  | cutShort
  /-- The server sends whoever asks to another place. -/
  | elsewhere
  deriving DecidableEq, Repr

/-! ## Lines -/

/-- The byte of a line feed. -/
def lineFeed : UInt8 := 0x0A

/-- The byte of a carriage return. -/
def carriageReturn : UInt8 := 0x0D

/-- The end of a line. -/
def lineEnd : Bytes := [carriageReturn, lineFeed]

/-- Whether a byte is a space or a tab. -/
def isSpace (b : UInt8) : Bool :=
  b == 0x20 || b == 0x09

/-- A text less the spaces and tabs around it. -/
def trimSpaces (s : Bytes) : Bytes :=
  ((s.dropWhile isSpace).reverse.dropWhile isSpace).reverse

/-- Whether a byte can stand in a line. -/
def isText (b : UInt8) : Bool :=
  b == 0x09 || (0x20 ≤ b && b != 0x7F)

/-- The first line, less its end, and what follows it. -/
def splitLine? (s : Bytes) : Option (Bytes × Bytes) :=
  let line := s.takeWhile (· != lineFeed)
  match s.drop line.length with
  | _ :: rest => some (if line.getLast? == some carriageReturn then line.dropLast else line, rest)
  | [] => none

theorem length_of_splitLine? {s line rest : Bytes} (h : splitLine? s = some (line, rest)) :
    rest.length < s.length := by
  simp only [splitLine?] at h
  split at h
  · next heq =>
    simp only [Option.some.injEq, Prod.mk.injEq] at h
    have := congrArg List.length heq
    rw [List.length_drop, List.length_cons, h.2] at this
    omega
  · simp at h

/-! ## Heads -/

/-- A field: its name in lower case, and its value. -/
structure Field where
  name : String
  value : Bytes
  deriving DecidableEq, Repr

/-- What stands in front of a body. -/
structure Head where
  /-- Whether the server speaks version 1.1, and not 1.0. -/
  isModern : Bool
  status : Nat
  fields : List Field
  deriving DecidableEq, Repr

/-- The version and the status in the first line of a reply. Three digits give the status, and a
reason may stand behind them. -/
def statusLine? (line : Bytes) : Option (Bool × Nat) := do
  let (version, rest) := (line.take 9, line.drop 9)
  let digits ← Text.Utf8.decode? (rest.take 3)
  let status ← Number.natural? digits
  let isModern := version == Text.bytes "HTTP/1.1 "
  let reason := rest.drop 3
  if (isModern || version == Text.bytes "HTTP/1.0 ") && digits.length = 3 && 100 ≤ status &&
      (reason.isEmpty || reason.head? == some 0x20) && reason.all isText then
    return (isModern, status)
  else none

/-- Whether a character can stand in the name of a field. -/
def isNameChar (c : Char) : Bool :=
  c.isAlphanum || "!#$%&'*+-.^_`|~".toList.contains c

/-- The field in a line. -/
def field? (line : Bytes) : Option Field := do
  let name := line.takeWhile (· != 0x3A)
  let value := line.drop (name.length + 1)
  let letters ← Text.Utf8.decode? name
  if !name.isEmpty && name.length < line.length && letters.all isNameChar && value.all isText then
    return ⟨String.ofList (letters.map Char.toLower), trimSpaces value⟩
  else none

/-- The fields up to an empty line, no more than `room`, and what follows them. -/
def readFields? (room : Nat) (s : Bytes) : Option (List Field × Bytes) :=
  match splitLine? s with
  | none => none
  | some ([], rest) => some ([], rest)
  | some (line, rest) =>
    match room with
    | 0 => none
    | room + 1 => do
      let field ← field? line
      let (fields, rest) ← readFields? room rest
      return (field :: fields, rest)

theorem length_of_readFields? {room : Nat} {s rest : Bytes} {fields : List Field}
    (h : readFields? room s = some (fields, rest)) : rest.length < s.length := by
  induction room generalizing s fields with
  | zero =>
    unfold readFields? at h
    split at h
    · simp at h
    · next hl =>
      simp only [Option.some.injEq, Prod.mk.injEq] at h
      exact h.2 ▸ length_of_splitLine? hl
    · simp at h
  | succ room ih =>
    unfold readFields? at h
    split at h
    · simp at h
    · next hl =>
      simp only [Option.some.injEq, Prod.mk.injEq] at h
      exact h.2 ▸ length_of_splitLine? hl
    · next hl =>
      simp only [bind, pure, Option.bind_eq_some_iff, Option.some.injEq, Prod.mk.injEq] at h
      obtain ⟨_, _, found, hf, _, rfl⟩ := h
      exact Nat.lt_trans (ih hf) (length_of_splitLine? hl)

/-- The greatest number of fields. -/
def fieldLimit : Nat := 100

/-- The head at the start of a stream, in front of which empty lines do not count, and what follows
it. -/
def readHead? (s : Bytes) : Option (Head × Bytes) :=
  match h : splitLine? s with
  | none => none
  | some ([], rest) =>
    have := length_of_splitLine? h
    readHead? rest
  | some (line, rest) => do
    let (isModern, status) ← statusLine? line
    let (fields, rest) ← readFields? fieldLimit rest
    return (⟨isModern, status, fields⟩, rest)
termination_by s.length

theorem length_of_readHead? {s rest : Bytes} {head : Head} (h : readHead? s = some (head, rest)) :
    rest.length < s.length := by
  fun_induction readHead? s with
  | case1 => simp at h
  | case2 s _ hl _ ih => exact Nat.lt_trans (ih h) (length_of_splitLine? hl)
  | case3 s line after _ hl =>
    simp only [bind, pure, Option.bind_eq_some_iff, Option.some.injEq, Prod.mk.injEq] at h
    obtain ⟨_, _, _, hf, _, rfl⟩ := h
    exact Nat.lt_trans (length_of_readFields? hf) (length_of_splitLine? hl)

/-! ## Bodies -/

/-- How the end of a body is found. -/
inductive Framing where
  | nothing
  /-- So many bytes. -/
  | counted (length : Nat)
  /-- Pieces that tell their lengths. -/
  | chunked
  /-- All that comes. -/
  | rest
  deriving DecidableEq, Repr

/-- The values of the fields with a name, in order. -/
def Head.values (head : Head) (name : String) : List Bytes :=
  (head.fields.filter (·.name == name)).map Field.value

/-- Whether a status announces the reply that is still to come. -/
def isInterim (status : Nat) : Bool :=
  100 ≤ status && status < 200 && status != 101

/-- Whether a reply with this status has a body. -/
def hasBody (status : Nat) : Bool :=
  !([101, 204, 304].contains status)

/-- The parts of a value between commas. -/
def partsOf (value : Bytes) : List Bytes :=
  (Text.splitWhere (· == 0x2C) value).map trimSpaces

/-- The bound below which a length must lie. -/
def lengthBound : Nat := 18446744073709551614

/-- The length that the values of a field agree on. -/
def lengthOf? (values : List Bytes) : Option Nat := do
  let lengths ← (values.flatMap partsOf).mapM fun part => do
    Number.naturalBelow? lengthBound (← Text.Utf8.decode? part)
  let first ← lengths.head?
  if lengths.all (· = first) then return first else none

/-- Whether the last of several encodings is the one in pieces. -/
def endsInChunks (values : List Bytes) : Bool :=
  match (values.getLast?.map partsOf).bind List.getLast? with
  | some part => (Text.Utf8.decode? part).any fun s => s.map Char.toLower == "chunked".toList
  | none => false

/-- Whether a head sends whoever asks to another place. -/
def Head.isElsewhere (head : Head) : Bool :=
  [301, 302, 303, 307, 308].contains head.status && !(head.values "location").isEmpty

/-- How the end of the body behind a head is found. -/
def framing? (head : Head) : Option Framing :=
  if !hasBody head.status then some .nothing
  else match head.values "transfer-encoding", head.values "content-length" with
    | [], [] => some .rest
    | [], lengths => (lengthOf? lengths).map .counted
    | encodings, _ =>
      if !head.isModern then none
      else if endsInChunks encodings then some .chunked
      else some .rest

/-- The length in the line in front of a piece. An extension may follow it. -/
def chunkLength? (line : Bytes) : Option Nat := do
  let s ← Text.Utf8.decode? (line.takeWhile fun b => !isSpace b && b != 0x3B)
  let behind := (line.drop s.length).dropWhile isSpace
  let digits ← s.mapM Number.hexValue?
  let length := digits.foldl (16 * · + ·) 0
  if s.isEmpty || lengthBound ≤ length || !(behind.isEmpty || behind.head? == some 0x3B) then none
  else return length

/-- A line that ends in a carriage return and a line feed, less these, and what follows it. No other
carriage return stands in it. -/
def splitFullLine? (s : Bytes) : Option (Bytes × Bytes) := do
  let (line, rest) ← splitLine? s
  if s.idxOf? carriageReturn == some line.length then return (line, rest) else none

/-- The pieces of a body up to one of no length; `done` holds, in reverse, those that were read, and
`room` bounds their number. -/
def chunksFrom? (done : List Bytes) (room : Nat) (s : Bytes) : Option Bytes := do
  let (line, rest) ← splitFullLine? s
  match ← chunkLength? line, room with
  | 0, _ =>
    if (readFields? fieldLimit rest).isSome then return done.reverse.flatten else none
  | _, 0 => none
  | length, room + 1 =>
    let piece := rest.take length
    if piece.length = length && lineEnd.isPrefixOf (rest.drop length) then
      chunksFrom? (piece :: done) room (rest.drop (length + 2))
    else none

/-- The body that comes in pieces. Every piece takes a byte at least, so there are no more pieces
than bytes. -/
def chunks? (s : Bytes) : Option Bytes :=
  chunksFrom? [] s.length s

/-- The body that starts a stream. -/
def bodyOf? (s : Bytes) : Framing → Option Bytes
  | .nothing => some []
  | .rest => some s
  | .counted length => if length ≤ s.length then some (s.take length) else none
  | .chunked => chunks? s

/-! ## Replies -/

/-- The reply that a stream of bytes holds. -/
def read (s : Bytes) : Except Fault Reply :=
  match h : readHead? s with
  | none => .error .malformed
  | some (head, rest) =>
    if isInterim head.status then
      have := length_of_readHead? h
      read rest
    else if head.isElsewhere then .error .elsewhere
    else match framing? head with
      | none => .error .malformed
      | some framing =>
        match bodyOf? rest framing with
        | none => .error .cutShort
        | some body => .ok ⟨head.status, body⟩
termination_by s.length

/-- A stream that holds a reply. -/
def write (reply : Reply) : Bytes :=
  let lines := [s!"HTTP/1.1 {reply.status} ", s!"Content-Length: {reply.body.length}", ""]
  lines.flatMap (fun line => Text.bytes line ++ lineEnd) ++ reply.body

end Reply

end FunctionSearch.Web
