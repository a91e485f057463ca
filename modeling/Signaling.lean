import Signaling.V2.LifeCycle
import Signaling.V2.Relay
import Signaling.V2.Isolation
import Signaling.V2.Structure
import Signaling.V2.Ghosts
import Signaling.V2.Dwell
import Signaling.V2.Memberships
import Signaling.V2.Epochs
import Signaling.V2.Events
import Signaling.V2.Deduplication
import Signaling.V2.Vacancy
import Signaling.V2.Resume
import Signaling.V2.Offerer
import Signaling.V2.Exchange
import Signaling.V2.Downgrade
import Signaling.V2.Attempt
import Signaling.V2.Promotions
import Signaling.V2.Rollback
import Signaling.V2.Barrier
import Signaling.V2.Spelling
import Signaling.V2.Departures
import Signaling.V2.Placement
import Signaling.V2.Bookkeeping
import Signaling.Collider.Run
import Signaling.V1.Election
import Signaling.V1.Reaping
import Signaling.Collider.Agreement
import Signaling.Collider.Handover
import Signaling.Collider.Deadlines
import Signaling.Collider.Numerals
import Signaling.Collider.Stalls
import Signaling.Collider.Answers
import Signaling.Collider.Registrations
import Signaling.Collider.Wire
import Signaling.Collider.Admissions
