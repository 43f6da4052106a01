import OscRemote.Config.Error
import OscRemote.Message.Error

/-!
# Why a client refuses

A client refuses a message that has no encoding and a configuration that cannot be right; and a
transport may fail to start the worker that writes its messages.  Only the last may be over the next
time.
-/

namespace OscRemote

/-- Why a client refuses. -/
inductive ClientError where
  | encoding (cause : MessageError)
  | workerStart (cause : FileError)
  | config (cause : ConfigError)
deriving DecidableEq, Repr

namespace ClientError

/-- The wording of a cause. -/
def message : ClientError → String
  | .encoding cause => "protocol error: " ++ cause.message
  | .workerStart cause => "failed to start transport worker: " ++ cause.message
  | .config cause => "configuration error: " ++ cause.message

/-- Whether the same call can succeed the next time. -/
def isRetryable : ClientError → Bool
  | .workerStart _ => true
  | _ => false

end ClientError

end OscRemote
