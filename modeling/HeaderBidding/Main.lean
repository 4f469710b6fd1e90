import HeaderBidding.CommandLine.Run
import HeaderBidding.Exchange.Wire
import HeaderBidding.Log.Filter
import HeaderBidding.MockPartner.Wire
import Std.Async.DNS
import Std.Async.Signal
import Std.Async.TCP
import Std.Async.Timer
import Std.Time.Zoned

/-!
# The program

Runs of the program among real files and on a real network. What is done is said by
`CommandLine.Surroundings.run`; here stands only how bytes are moved.
-/

namespace HeaderBidding

open Std.Async
open Std.Net (IPAddr IPv4Addr IPv6Addr SocketAddress)

/-! ## Files -/

/-- The number of an error of the system, which comes with either sign. -/
def errorNumber (code : UInt32) : Nat :=
  min code.toNat (0x100000000 - code.toNat)

/-- What an error of the system means. -/
def IoError.ofSystem (e : IO.Error) : IoError :=
  match e with
  | .noFileOrDirectory .. | .noSuchThing .. => .notFound
  | .resourceBusy .. => .addressInUse
  | .inappropriateType _ code _ =>
    if errorNumber code = 20 then .notDirectory
    else if errorNumber code = 21 then .isDirectory
    else .other (toString e)
  | _ => .other (toString e)

/-- Reads a file. -/
def readFile (path : String) : IO FileRead := do
  try
    let bytes ← IO.FS.readBinFile path
    match String.fromUTF8? bytes with
    | some text => return .ok text
    | none => return .error .invalidText
  catch e => return .error (.ofSystem e)

/-! ## Log -/

/-- A log that may be open, and what is kept of it. -/
structure Journal where
  file : IO.Ref (Option IO.FS.Handle)
  filter : LogFilter

/-- The time, in the zone of Greenwich. -/
def currentTime : IO Std.Time.PlainDateTime := do
  let time ← Std.Time.Timestamp.now
  return .ofWallTime (.ofDuration time.toDurationSinceUnixEpoch)

namespace Journal

/-- Opens the log of the hour in a directory, if that is possible. -/
def openIn (journal : Journal) (dir : String) : IO Bool := do
  let name := "pulsepoint_adapter.json." ++ (← currentTime).format "uuuu-MM-dd-HH"
  try
    unless dir = "" do IO.FS.createDirAll dir
    let path := if dir = "" then name else dir ++ "/" ++ name
    journal.file.set (some (← IO.FS.Handle.mk path .append))
    return true
  catch _ => return false

/-- Writes the events that are kept, a line each. -/
def write (journal : Journal) (events : List Event) : IO Unit := do
  match ← journal.file.get with
  | none => return
  | some file =>
    for event in events.filter journal.filter.keeps do
      let time ← currentTime
      let stamp := time.format "uuuu-MM-dd" ++ "T" ++ time.format "HH:mm:ss.SSSSSS" ++ "Z"
      file.putStrLn (Json.object (("timestamp", .text stamp) :: event.members)).toText
    file.flush

end Journal

/-! ## Network -/

/-- The most bytes that are received at once. -/
def receiveSize : UInt64 := 65536

/-- Receives bytes until they can be read; `read` is also told whether there are no more, and the
time since the start in milliseconds. -/
def receive {α : Type} (socket : TCP.Socket.Client)
    (read : Bool → UInt64 → List UInt8 → Wire.Progress α) (start : Nat) : Async (Option α) := do
  let mut bytes := ByteArray.empty
  repeat
    let chunk ← socket.recv? receiveSize
    bytes := bytes ++ chunk.getD ByteArray.empty
    let elapsed := (← IO.monoMsNow) - start
    match read chunk.isNone (.ofNat elapsed) bytes.toList with
    | .done a => return some a
    | .broken => return none
    | .more => if chunk.isNone then return none
  return none

/-- Where a host listens. -/
def addressesOf (host : Host) (port : UInt16) : Async (List SocketAddress) := do
  let located (address : IPAddr) : SocketAddress :=
    match address with
    | .v4 address => .v4 ⟨address, port⟩
    | .v6 address => .v6 ⟨address, port⟩
  match host with
  | .ipv4 address =>
    let part (places : UInt32) : UInt8 := (address >>> places).toUInt8
    return [located (.v4 (.ofParts (part 24) (part 16) (part 8) (part 0)))]
  | .ipv6 pieces =>
    let piece (place : Nat) : UInt16 := .ofNat (pieces.getD place 0)
    return [located (.v6 (.ofParts (piece 0) (piece 1) (piece 2) (piece 3) (piece 4) (piece 5)
      (piece 6) (piece 7)))]
  | .domain name =>
    let found ← DNS.getAddrInfo (String.ofList name) "" none
    return found.toList.map located

/-- Connects to the first address that accepts. -/
def connectTo : List SocketAddress → Async (Option TCP.Socket.Client)
  | [] => return none
  | address :: rest => do
    try
      let socket ← TCP.Socket.Client.mk
      socket.connect address
      return some socket
    catch _ => connectTo rest

/-- Posts a request and waits for the answer. There is no way to a partner that wants to be talked
to in secret. -/
def talk (posting : Posting) : Async Delivery := do
  match posting.url.scheme == "http".toList, posting.url.host with
  | true, some host =>
    let start ← IO.monoMsNow
    try
      let port := posting.url.port.getD 80
      match ← connectTo (← addressesOf host (.ofNat port)) with
      | none => return .failed
      | some socket =>
        socket.send ⟨posting.bytes.toArray⟩
        return (← receive socket Delivery.ofBytes start).getD .failed
    catch _ => return .failed
  | _, _ => return .failed

/-- Waits until the time for an answer is over. -/
def giveUp (ms : UInt64) : Async Delivery := do
  sleep (.ofNat ms.toNat)
  return .late

/-- Posts a request, and gives the reply to it. -/
def exchange (timeout : UInt64) (request : OutboundRequest) : IO (Traced AdapterError Reply) :=
  match Posting.ofRequest request with
  | .error reason => return Traced.fail (.transport reason)
  | .ok posting => do
    have : Inhabited Delivery := ⟨.failed⟩
    let delivery ← (Async.race (talk posting) (giveUp (request.budget timeout))).block
    return conclude request posting timeout delivery

/-! ## Mock partner -/

/-- A random word. -/
def randomWord : IO UInt64 :=
  return .ofNat (← IO.rand 0 0xFFFFFFFFFFFFFFFF)

/-- A random identifier that nobody else uses: 122 random bits, written in groups. -/
def randomUnique : IO String := do
  let high ← randomWord
  let low ← randomWord
  let digits (word : UInt64) : List Char :=
    let digits := Decimal.hexadecimal word.toNat
    List.replicate (16 - digits.length) '0' ++ digits
  let first := digits (high &&& 0xFFFFFFFFFFFF0FFF ||| 0x4000)
  let last := digits (low &&& 0x3FFFFFFFFFFFFFFF ||| 0x8000000000000000)
  let groups := [first.take 8, (first.drop 8).take 4, first.drop 12, last.take 4, last.drop 4]
  return String.ofList (Text.join '-' groups)

/-- The time that the mock partner takes over a request, at most what the request grants. -/
def thinkingTime (incoming : MockPartner.Incoming) (word : UInt64) : Nat :=
  match incoming.request with
  | .ok request => min (10 + word.toNat % 40) ((request.tmax.map UInt64.toNat).getD 50)
  | .error _ => 0

/-- Answers the request that comes over a connection. -/
def attend (journal : Journal) (socket : TCP.Socket.Client) : Async Unit := do
  let incoming ← receive socket (fun isClosed _ => MockPartner.Incoming.ofBytes isClosed) 0
  match incoming with
  | none => socket.send ⟨MockPartner.Answer.malformed.bytes.toArray⟩
  | some incoming =>
    journal.write incoming.events
    sleep (.ofNat (thinkingTime incoming (← randomWord)))
    let count := match incoming.request with
      | .ok request => request.imp.length
      | .error _ => 0
    let words ← (List.range (2 * count)).mapM fun _ => randomWord
    let names ← (List.range count).mapM fun _ => randomUnique
    let chance := MockPartner.Chance.ofWords (names.getD · "")
    socket.send ⟨(MockPartner.answer incoming chance (.ofList words)).bytes.toArray⟩
  socket.shutdown

/-- Answers requests until the program is interrupted. -/
def acceptAll (journal : Journal) (server : TCP.Socket.Server) : Async Unit := do
  let interruption ← Signal.Waiter.mk .sigint false
  repeat
    let socket ← Selectable.one
      #[.case server.acceptSelector fun socket => pure (some socket),
        .case interruption.selector fun _ => pure none]
    match socket with
    | some socket => background (attend journal socket)
    | none => return

/-- Serves as the mock partner at a port. -/
def serve (journal : Journal) (port : UInt16) : IO (Except IoError Unit) := do
  try
    let server ← TCP.Socket.Server.mk
    server.bind (.v4 ⟨.ofParts 0 0 0 0, port⟩)
    server.listen 1024
    (acceptAll journal server).block
    return .ok ()
  catch e => return .error (.ofSystem e)

/-! ## Runs -/

/-- The surroundings of a run. -/
def surroundings (journal : Journal) : CommandLine.Surroundings IO where
  read := readFile
  openLog := journal.openIn
  log := journal.write
  exchange
  serve := serve journal

/-- The name of the variable that says which events are kept. -/
def filterVariable : String := "HEADER_BIDDING_LOG"

end HeaderBidding

open HeaderBidding in
/-- Runs the program. -/
def main (args : List String) : IO UInt32 := do
  let setting ← IO.getEnv filterVariable
  let journal : Journal := { file := ← IO.mkRef none, filter := .ofText (setting.getD "") }
  let outcome ← (surroundings journal).run args
  IO.print outcome.stdout
  IO.eprint outcome.stderr
  return .ofNat outcome.exit
