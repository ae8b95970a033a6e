import HostCalls.Bytes.Word
import HostCalls.Service.Basic

/-!
# Stock services

A small set of services that come with the library: plain functions of the request, some
with a memory of earlier calls, and one that sends messages.
-/
namespace HostCalls

/-- A stock service and what it remembers. -/
inductive Stock where
  /-- Answers with the request. -/
  | echo
  /-- Answers with the request backwards. -/
  | reverse
  /-- Answers with the length of the request, as a word. -/
  | length
  /-- Always answers with the same bytes. -/
  | const (data : Bytes)
  /-- Always answers with the same error. -/
  | error (code : ErrorCode)
  /-- Answers with the request `times` times over. -/
  | repeated (times : Nat)
  /-- Answers with the number of calls, as a word; `calls` of them came before. -/
  | count (calls : Nat)
  /-- Answers with all requests one after the other; `seen` are those that came before. -/
  | accumulate (seen : Bytes)
  /-- Takes the first four bytes of the request for a code: an error, or zero for an answer with
  the other bytes. -/
  | coded
  /-- Answers from a list, over and over; `next` counts the calls so far. -/
  | script (answers : List CallResult) (next : Nat)
  /-- Sends the request `times` times and answers with a byte for each send. -/
  | push (sender : Sender) (times : Nat)

namespace Stock

/-- The error for a request that is too short to hold a code. -/
def shortRequest : ErrorCode := ⟨-1, by decide⟩

/-- The answer of the coded service. -/
def decode : Bytes → CallResult
  | b₀ :: b₁ :: b₂ :: b₃ :: rest =>
    match ErrorCode.ofRaw? (Word.ofBytes b₀ b₁ b₂ b₃).toInt32 with
    | some code => .error code
    | none => .ok rest
  | _ => .error shortRequest

/-- The byte that tells how a send ended. -/
def sendCode : Except SendError Unit → UInt8
  | .ok () => 0
  | .error (.queueFull _) => 1
  | .error (.tooLarge _ _) => 2

/-- Sends a payload some number of times; the bytes for the earlier sends are kept newest first. -/
def sendTimes (sender : Sender) (payload : Bytes) (codes : Bytes) : Nat → Activity Bytes
  | 0 => .done codes.reverse
  | times + 1 =>
    .send sender payload fun sent => sendTimes sender payload (sendCode sent :: codes) times

/-- The answer at a place of a script, counted around; an empty script answers with nothing. -/
def scriptAnswer (answers : List CallResult) (next : Nat) : CallResult :=
  (answers[next % answers.length]?).getD (.ok [])

/-- What a stock service does on a request. -/
def handle (service : Stock) (request : Bytes) : Activity (CallResult × Stock) :=
  match service with
  | echo => pure (.ok request, service)
  | reverse => pure (.ok request.reverse, service)
  | length => pure (.ok (Word.toBytes (.ofNat request.length)), service)
  | const data => pure (.ok data, service)
  | error code => pure (.error code, service)
  | repeated times => pure (.ok (request.repeated times), service)
  | count calls => pure (.ok (Word.toBytes (.ofNat (calls + 1))), count (calls + 1))
  | accumulate seen => pure (.ok (seen ++ request), accumulate (seen ++ request))
  | coded => pure (decode request, service)
  | script answers next => pure (scriptAnswer answers next, script answers (next + 1))
  | push sender times => do
    let codes ← sendTimes sender request [] times
    return (.ok codes, service)

instance : Service Stock := ⟨handle⟩

end Stock

end HostCalls
