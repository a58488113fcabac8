import SpecScribe.Settings.Table
import SpecScribe.Text.Search

/-!
Cutting texts to the length of a table cell. A list of names is cut at a separator, running text
behind a sentence mark where one stands in reach. A negative length counts from the end.
-/

namespace SpecScribe.Text

/-- The length of the prefix of a text of length `n` that ends at `stop`. -/
def prefixLength (n : Nat) (stop : Int) : Nat :=
  if stop < 0 then (n + stop).toNat else min n stop.toNat

/-- The text up to `stop`, which counts from the end if it is negative. -/
def takeTo (stop : Int) (s : List Char) : List Char := s.take (prefixLength s.length stop)

end SpecScribe.Text

namespace SpecScribe.Document

open Settings Text

/-- Cuts a list of names in front of its last separator in reach. -/
def truncateAtSeparator (t : TableSettings) (s : List Char) : List Char :=
  let limit := t.maxCell - t.suffix.length
  if s.length ≤ limit then s
  else
    let sep := t.separator.toList
    let head := takeTo limit s
    match if sep.isEmpty then some head.length else findLast? sep head with
    | some (i + 1) => s.take (i + 1)
    | _ => head

def isSentenceMark (c : Char) : Bool := c == '。' || c == '、' || c == '！' || c == '？'

/-- Cuts running text so that it fits with the suffix into `limit` characters. -/
def truncateSentence (t : TableSettings) (limit : Int) (s : List Char) : List Char :=
  if s.length ≤ limit then s
  else
    let suffix := t.suffix.toList
    let room := limit - suffix.length
    if room ≤ 0 then suffix
    else
      let head := s.take room.toNat
      let sentences := (head.reverse.dropWhile (!isSentenceMark ·)).reverse
      if t.keepSentences && !sentences.isEmpty && sentences.length < head.length then
        sentences ++ suffix
      else head ++ suffix

end SpecScribe.Document
