import PortReservation.Text.Decimal
import PortReservation.Text.Utf8
import PortReservation.Entries.Reader
import PortReservation.Entries.Writer
import PortReservation.Time.Clock
import PortReservation.Time.Duration
import PortReservation.Time.Timestamp
import PortReservation.Error.Basic
import PortReservation.Debounce
import PortReservation.Request
import PortReservation.Lock.Policy
import PortReservation.Address.Local
import PortReservation.Address.Writer
import PortReservation.Json.Reader
import PortReservation.Json.Writer
import PortReservation.Config.Writer
import PortReservation.Files.Tree
import PortReservation.Lock.Polling
import PortReservation.Network
import PortReservation.Ledger
import PortReservation.Description
import PortReservation.Proofs.DebounceRun
import PortReservation.Proofs.Race.Safety
import PortReservation.Proofs.FirstFit
import PortReservation.Proofs.Session.Exclusion
import PortReservation.Proofs.Session.Isolation
import PortReservation.Proofs.Operation
import PortReservation.Proofs.FreeClock
import PortReservation.Proofs.Race.Coherence
import PortReservation.Proofs.Locating
import PortReservation.Proofs.Unlinked
import PortReservation.Proofs.Purging
import PortReservation.Proofs.Reserving
import PortReservation.Proofs.Rewriting
import PortReservation.Proofs.Installation
import PortReservation.Proofs.LineForms
import PortReservation.Proofs.Failing
import PortReservation.Proofs.IntegerRange
import PortReservation.Proofs.Waiting
import PortReservation.Proofs.LocalHost
import PortReservation.Proofs.PartialConfig
import PortReservation.Proofs.ConfigText
