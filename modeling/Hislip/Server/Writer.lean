import Hislip.Protocol.Codec

/-! The message writer of one channel. `writeBytes` is `Write` step by step on the
writer's header buffer and stream; where a channel has one writer at a time the
server's loops take the whole of it as one send. -/

namespace Hislip.Server

/-- A writer is told apart by the channel it checks message types against. -/
structure MessageWriter where
  channel : Channel
  deriving DecidableEq, Repr

/-- `MessageWriter.Write` down to the steps of `WriteMessage`. -/
def MessageWriter.writeBytes (writer : MessageWriter) (header : Header) (payload : Slice) :
    WriterProgram (Option Err) :=
  if ¬ header.type.legalOn writer.channel then return some Sentinel.wrongChannel
  else writeMessage header payload

end Hislip.Server
