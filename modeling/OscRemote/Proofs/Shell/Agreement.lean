import OscRemote.Proofs.Command.Execute
import OscRemote.Proofs.Shell.Session
import OscRemote.Proofs.Text.Words

/-!
# A line with one verb and a command

What a command does can also be asked of the shell, by a line with one verb.  The two look at the
words in different places: the shell refuses a volume out of bounds when it reads the line, a command
when it is executed; and the shell takes the tags of a message to be empty if there are none.  Yet
they come to the same operation or to the same fault (`Command.Written.readsAs`), and so to
the same client and the same requests.
-/

namespace OscRemote

open Number (Single)

/-! ## Words of a command -/

namespace Command

variable {word usage argument : String} {v : Verb} {command : Command}

end Command

end OscRemote
