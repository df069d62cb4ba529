import Storyline.Codec.Event
import Storyline.Codec.Played
import Storyline.Codec.Save
import Storyline.Console.Tree
import Storyline.Main
import Storyline.Proofs.Attendance
import Storyline.Proofs.Reload
import Storyline.Proofs.Skipping
import Storyline.Proofs.Walk
import Storyline.Proofs.Course
import Storyline.Proofs.Visits
import Storyline.Proofs.Deferral
import Storyline.Proofs.ReturnVisits
import Storyline.Proofs.Standoff
import Storyline.Proofs.Ending
import Storyline.Proofs.Excerpt
import Storyline.Proofs.Ledger
import Storyline.Proofs.Records
import Storyline.Proofs.Permission
import Storyline.Proofs.Rollback
import Storyline.Proofs.Abandonment
import Storyline.Proofs.Gathering
import Storyline.Proofs.Barriers
import Storyline.Proofs.Ground
import Storyline.Proofs.Pace
import Storyline.Proofs.Passage
import Storyline.Proofs.Headway
import Storyline.Proofs.FastForward
import Storyline.Proofs.Footing
import Storyline.Proofs.Beside
import Storyline.Proofs.Modes
import Storyline.Proofs.Chart
import Storyline.Proofs.Masking
import Storyline.Proofs.Takeover
import Storyline.Proofs.Refusal
import Storyline.Proofs.Stack
import Storyline.Proofs.Setback
import Storyline.Proofs.Calls
import Storyline.Proofs.Retention
import Storyline.Proofs.Locality
import Storyline.Proofs.Declining
import Storyline.Proofs.Assignment
import Storyline.Proofs.Lineage
import Storyline.Proofs.ReadingBack
