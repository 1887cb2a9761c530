import JobRelay.Book.Basic
import JobRelay.Data.Datum

/-! # Listing the book

All tables with their stored values. Users, jobs, payment records and blocklist rows are listed by
key, the others in order of insertion; a table that is gone is `null`.
-/

namespace JobRelay.Book

/-- Rows in the order of their keys. -/
def byKey {α : Type} (key : α → String) (rows : List α) : List α :=
  rows.mergeSort fun a b => !(decide (key b < key a))

/-- A table as data, unless it is gone. -/
def tableDatum (book : Book) (table : Table) (rows : List Datum) : String × Datum :=
  (Named.name table, if book.missing.contains table then .null else .list rows)

def userDatum (row : UserRow) : Datum :=
  .record [("id", .text row.id), ("email_hash", .ofText? row.emailHash),
    ("debt_sats", .whole row.debtSats), ("status", .text row.status)]

def jobDatum (row : JobRow) : Datum :=
  .record [("id", .text row.id), ("status", .text row.status),
    ("status_updated_at", .text row.statusUpdatedAt), ("outreach_count", .whole row.outreachCount),
    ("next_outreach_at", .ofText? row.nextOutreachAt), ("billing_date", .ofText? row.billingDate),
    ("access_end_date", .ofText? row.accessEndDate), ("amount_sats", .ofWhole? row.amountSats),
    ("invoice_id", .ofText? row.invoiceId), ("otp_code", .ofText? row.otpCode)]

def historyDatum (row : HistoryRow) : Datum :=
  .record [("job_id", .text row.jobId), ("from", .ofText? row.fromStatus),
    ("to", .text row.toStatus), ("actor", .text row.actor), ("reason", .ofText? row.reason),
    ("at", .text row.createdAt)]

def transactionDatum (row : TransactionRow) : Datum :=
  .record [("job_id", .text row.jobId), ("user_id", .text row.userId),
    ("amount_sats", .ofWhole? row.amountSats), ("invoice_id", .ofText? row.invoiceId),
    ("status", .text row.status), ("paid_at", .ofText? row.paidAt),
    ("created_at", .text row.createdAt)]

def ledgerDatum (row : LedgerRow) : Datum :=
  .record [("id", .whole row.id), ("job_id", .text row.jobId), ("service_id", .text row.serviceId),
    ("action", .text row.action), ("amount_sats", .whole row.amountSats),
    ("payment_status", .text row.paymentStatus), ("recorded_at", .text row.recordedAt)]

def blocklistDatum (row : BlocklistRow) : Datum :=
  .record [("email_hash", .text row.emailHash), ("debt_sats", .whole row.debtSats),
    ("updated_at", .text row.updatedAt)]

def alertDatum (row : AlertRow) : Datum :=
  .record [("id", .whole row.id), ("alert_type", .text row.alertType),
    ("job_id", .ofText? row.jobId), ("acknowledged", .whole row.acknowledged)]

def listing (book : Book) : Datum :=
  .record [
    book.tableDatum .users ((byKey (·.id) book.users).map userDatum),
    book.tableDatum .jobs ((byKey (·.id) book.jobs).map jobDatum),
    book.tableDatum .history (book.history.map historyDatum),
    book.tableDatum .transactions ((byKey (·.jobId) book.transactions).map transactionDatum),
    book.tableDatum .ledger (book.ledger.map ledgerDatum),
    book.tableDatum .blocklist ((byKey (·.emailHash) book.blocklist).map blocklistDatum),
    book.tableDatum .alerts (book.alerts.map alertDatum)]

end JobRelay.Book
