import HeadlessDesktop.Trace.MessagePackForm

/-! Codecs for records, and streams of framed records. -/

namespace HeadlessDesktop.Trace

open Text Time

inductive Codec
  | json
  | messagePack
deriving DecidableEq, Repr

namespace Codec

def name : Codec → String
  | .json => "json"
  | .messagePack => "msgpack"

def ofFormat? (format : Raw) : Option Codec :=
  if format = "json" then some .json
  else if format = "msgpack" then some .messagePack
  else none

def encode (codec : Codec) (record : Record) : Except Unwritable Bytes :=
  match codec with
  | .json => record.toJson.map fun value => encodeUtf8 value.text
  | .messagePack => .ok record.toMessagePack

def decode (codec : Codec) (bytes : Bytes) : Except DecodeError Record :=
  match codec with
  | .json => match Json.read? (decodeUtf8 bytes).toList with
    | some value => Record.ofJson value
    | none => .error .malformed
  | .messagePack => Record.ofMessagePack bytes

end Codec

def frameHeader (body : Bytes) : Bytes := MessagePack.bigEndian 4 body.length

inductive StreamEnd
  | ended
  | cut
  | undecodable (error : DecodeError)
deriving DecidableEq, Repr

/-- Exactly `count` bytes. A stream that holds none of them has ended, one that holds
some is cut; in both cases nothing is left. -/
def readExactly (count : Nat) (stream : Bytes) : Except StreamEnd Bytes × Bytes :=
  if count ≤ stream.length then (.ok (stream.take count), stream.drop count)
  else (.error (if stream.isEmpty then .ended else .cut), [])

/-- A body that is too short for its record looks like a stream that is. -/
def StreamEnd.ofDecodeError : DecodeError → StreamEnd
  | .ended => .ended
  | .cut => .cut
  | error => .undecodable error

def readFrame (codec : Codec) (stream : Bytes) : Except StreamEnd Record × Bytes :=
  match readExactly 4 stream with
  | (.error why, rest) => (.error why, rest)
  | (.ok header, rest) =>
    match readExactly (MessagePack.ofBigEndian header) rest with
    | (.error why, rest) => (.error why, rest)
    | (.ok body, rest) => ((codec.decode body).mapError .ofDecodeError, rest)

structure Replay where
  records : List Record
  stop : StreamEnd
  left : Bytes

/-- A frame takes at least four bytes, so the length of the stream bounds the frames. -/
def replayWithin (codec : Codec) : (fuel : Nat) → Bytes → Replay
  | 0, stream => ⟨[], .ended, stream⟩
  | fuel + 1, stream =>
    match readFrame codec stream with
    | (.error why, rest) => ⟨[], why, rest⟩
    | (.ok record, rest) =>
      let replay := replayWithin codec fuel rest
      { replay with records := record :: replay.records }

def replay (codec : Codec) (stream : Bytes) : Replay :=
  replayWithin codec (stream.length + 1) stream

end HeadlessDesktop.Trace
