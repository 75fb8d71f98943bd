import RemoteDrive.Url.Label

/-!
# Domains

A domain is brought into the form in which domains are compared and then into ASCII, label by label.
That is where its labels are looked at, each alone, and all together for their directions: letters
that are written from right to left would change the order of the labels for a reader, so a domain
that has some may only have labels of one direction each.
-/

set_option autoImplicit false

namespace RemoteDrive.Domain

/-- The spelling of a domain in ASCII, if it is one. -/
def spell? (s : List Char) : Option (List Char) := do
  let labels := (← fold? s).splitOn '.'
  let words ← labels.mapM Label.word?
  if !words.all Label.isWellFormed then none
  if words.any Label.hasRightToLeft && !words.all Label.hasDirection then none
  return List.intercalate ['.'] (← labels.mapM Label.spell?)

end RemoteDrive.Domain
