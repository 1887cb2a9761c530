import JobRelay.Data.Shape
import JobRelay.Job.Basic

/-! # Written forms of jobs

How requests for jobs and reports about them are read, and how jobs and their histories are
answered.
-/

namespace JobRelay

open Shape

def Date.shape : Shape Date := textAs Date.read?

def Instant.shape : Shape Instant := textAs Instant.readLoose?

def NewJob.shape : Shape NewJob := fun d => do
  let found ← fields
    [.of "user_id" text .always, .of "service_id" text .always,
      .of "action" (named : Shape JobAction) .always,
      .of "trigger" (named : Shape TriggerSource) .always,
      .of "billing_date" (optional Date.shape)] d
  return {
    userId := ← need found "user_id" text
    serviceId := ← need found "service_id" text
    action := ← need found "action" named
    trigger := ← need found "trigger" named
    billingDate := ← get found "billing_date" (optional Date.shape) none }

def AgentReport.shape : Shape AgentReport := fun d => do
  let found ← fields
    [.of "status" (named : Shape JobStatus) .always,
      .of "next_outreach_at" (optional Instant.shape),
      .of "access_end_date" (optional Date.shape), .of "billing_date" (optional Date.shape),
      .of "note" (optional text)] d
  return {
    status := ← need found "status" named
    nextOutreachAt := ← get found "next_outreach_at" (optional Instant.shape) none
    accessEndDate := ← get found "access_end_date" (optional Date.shape) none
    billingDate := ← get found "billing_date" (optional Date.shape) none
    note := ← get found "note" (optional text) none }

def Instant.datum (t : Instant) : Datum := .text t.shown

def Date.datum (d : Date) : Datum := .text d.format

def Datum.ofNamed {α : Type} [Named α] (value : α) : Datum := .text (Named.name value)

/-- A value or `null`. -/
def Datum.ofOption {α : Type} (datum : α → Datum) : Option α → Datum
  | some value => datum value
  | none => .null

def Job.datum (job : Job) : Datum :=
  .record [
    ("id", .text job.id),
    ("user_id", .text job.userId),
    ("service_id", .text job.serviceId),
    ("action", .ofNamed job.action),
    ("trigger", .ofNamed job.trigger),
    ("status", .ofNamed job.status),
    ("status_updated_at", job.statusUpdatedAt.datum),
    ("billing_date", .ofOption Date.datum job.billingDate),
    ("access_end_date", .ofOption Date.datum job.accessEndDate),
    ("outreach_count", .whole job.outreachCount),
    ("next_outreach_at", .ofOption Instant.datum job.nextOutreachAt),
    ("amount_sats", .ofWhole? job.amountSats),
    ("invoice_id", .ofText? job.invoiceId),
    ("created_at", job.createdAt.datum)]

def StatusChange.datum (change : StatusChange) : Datum :=
  .record [
    ("from_status", .ofOption Datum.ofNamed change.fromStatus),
    ("to_status", .ofNamed change.toStatus),
    ("actor", .ofNamed change.actor),
    ("reason", .ofText? change.reason),
    ("at", change.changedAt.datum)]

def NewJob.datum (request : NewJob) : Datum :=
  .record [
    ("user_id", .text request.userId),
    ("service_id", .text request.serviceId),
    ("action", .ofNamed request.action),
    ("trigger", .ofNamed request.trigger),
    ("billing_date", .ofOption Date.datum request.billingDate)]

/-- A report, all fields written. -/
def AgentReport.datum (report : AgentReport) : Datum :=
  .record [
    ("status", .ofNamed report.status),
    ("next_outreach_at", .ofOption Instant.datum report.nextOutreachAt),
    ("access_end_date", .ofOption Date.datum report.accessEndDate),
    ("billing_date", .ofOption Date.datum report.billingDate),
    ("note", .ofText? report.note)]

end JobRelay
