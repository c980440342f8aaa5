import MentalPoker.Text.Encoding

/-!
# Faults of charsets

A stream is read in the charset that it announces. Bytes that are no characters are replaced and
reading goes on; the faults here are those that end it.
-/

namespace MentalPoker

/-- Why a stream cannot be read in its charset. -/
inductive CharsetFault where
  /-- Units of several bytes come without the mark that tells their order. -/
  | unmarked (unitBits : Nat)
  /-- The bytes that wait for more are too many. -/
  | openTooLong
  /-- A single shift to a set that has no single characters. -/
  | noSingleShift
  /-- The charset reads bytes as bytes, and does so only if all of them can be read. -/
  | bytesOnly
  /-- The charset reads text, not bytes. -/
  | textOnly
  /-- The charset cannot replace anything. -/
  | neverReplaces
  /-- The charset that is there to read nothing. -/
  | undefined
  /-- A byte that should be ASCII, and its position. -/
  | notAscii (position byte : Nat)
  /-- The content type itself is not ASCII: the half-open range of the first characters that are
  not, and the first of them. -/
  | contentType (start stop first : Nat)
  /-- The parts of the charset's name are not all numbered; the first part is, or is not. -/
  | mixedParts (firstNumbered : Bool)
  /-- The name of the charset has a zero character. -/
  | zeroInName
  deriving DecidableEq, Repr

namespace CharsetFault

/-- The number of a character, behind a backslash. -/
def escaped (c : Nat) : Text :=
  if c < 0x100 then text "\\x" ++ Text.hexPadded 2 c
  else if c < 0x10000 then text "\\u" ++ Text.hexPadded 4 c
  else text "\\U" ++ Text.hexPadded 8 c

def message : CharsetFault → Text
  | unmarked unitBits =>
    text "UTF-" ++ Text.ofNat unitBits ++ text " stream does not start with BOM"
  | openTooLong => text "pending buffer overflow"
  | noSingleShift => text "internal codec error"
  | bytesOnly => []
  | textOnly => text "descriptor 'translate' for 'str' objects doesn't apply to a 'bytes' object"
  | neverReplaces => text "Unsupported error handling replace"
  | undefined => text "undefined encoding"
  | notAscii position byte =>
    (⟨text "ascii", position, position + 1, byte, text "ordinal not in range(128)"⟩ :
      EncodingFault).message
  | contentType start stop first =>
    text "'ascii' codec can't encode character"
      ++ (if stop = start + 1 then
          text " '" ++ escaped first ++ text "' in position " ++ Text.ofNat start
        else
          text "s in position " ++ Text.ofNat start ++ text "-" ++ Text.ofNat (stop - 1))
      ++ text ": ordinal not in range(128)"
  | mixedParts firstNumbered =>
    let first := text "'int'"
    let other := text "'NoneType'"
    text "'<' not supported between instances of "
      ++ (if firstNumbered then other ++ text " and " ++ first else first ++ text " and " ++ other)
  | zeroInName => text "embedded null character"

end CharsetFault

end MentalPoker
