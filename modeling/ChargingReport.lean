import ChargingReport.Application
import ChargingReport.Connection
import ChargingReport.Seed
import ChargingReport.Store.Migration
import ChargingReport.Store.Reflect
import ChargingReport.Proofs.Calendar.Phrase
import ChargingReport.Proofs.Logging.Service
import ChargingReport.Proofs.Query.Normal
import ChargingReport.Proofs.Report.Activity
import ChargingReport.Proofs.Report.Agreement
import ChargingReport.Proofs.Report.Arrivals
import ChargingReport.Proofs.Report.Closing
import ChargingReport.Proofs.Report.Instants
import ChargingReport.Proofs.Report.Lossless
import ChargingReport.Proofs.Report.Migrated
import ChargingReport.Proofs.Report.OpenKeys
import ChargingReport.Proofs.Report.Periods
import ChargingReport.Proofs.Report.Reconciliation
import ChargingReport.Proofs.Report.Regrouping
import ChargingReport.Proofs.Report.Resolution
import ChargingReport.Proofs.Report.SingleRow
import ChargingReport.Proofs.Report.Streaming
import ChargingReport.Proofs.Report.Today
import ChargingReport.Proofs.Report.Written
import ChargingReport.Proofs.Store.Seeding
import ChargingReport.Proofs.Tracing.Nesting
import ChargingReport.Proofs.Web.Forms
import ChargingReport.Proofs.Web.Labels
import ChargingReport.Proofs.Web.Ledger
import ChargingReport.Proofs.Web.Refusal
import ChargingReport.Proofs.Web.Statuses
