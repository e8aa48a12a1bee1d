import Patchbay.Text.Quoted
import Patchbay.Text.UpperCase
import Patchbay.Text.Utf8
import Patchbay.Resource.KindWord
import Patchbay.Resource.Display
import Patchbay.Resource.Json
import Patchbay.Store
import Patchbay.Frame.Render
import Patchbay.Frame.Stream
import Patchbay.Writer
import Patchbay.Engine.Run
import Patchbay.Config.Load
import Patchbay.Resource.FromJson
import Patchbay.Session
import Patchbay.Main
import Patchbay.Proofs.Engine.Replay
import Patchbay.Proofs.Engine.Contents
import Patchbay.Proofs.Frame.Chunks
import Patchbay.Proofs.Engine.Readiness
import Patchbay.Proofs.Engine.Failure
import Patchbay.Proofs.Engine.Reasons
import Patchbay.Proofs.Engine.Shown
import Patchbay.Proofs.Engine.Commuting
import Patchbay.Proofs.Frame.Hearing
import Patchbay.Proofs.Engine.Connection
import Patchbay.Proofs.Command
import Patchbay.Proofs.Outbox.Draining
import Patchbay.Proofs.Frame.Drawing
import Patchbay.Proofs.Frame.Truncation
import Patchbay.Proofs.Frame.Acceptance
import Patchbay.Proofs.Watch.Text
import Patchbay.Proofs.Watch.Output
import Patchbay.Proofs.Engine.Plainness
import Patchbay.Proofs.Store.Tables
import Patchbay.Proofs.Store.Changes
import Patchbay.Proofs.Store.Patching
import Patchbay.Proofs.Store.Missing
import Patchbay.Proofs.Issuer
import Patchbay.Proofs.Engine.Identity
import Patchbay.Proofs.Engine.Listening
import Patchbay.Proofs.Frame.Line
import Patchbay.Proofs.Resource.Image
import Patchbay.Proofs.Resource.StreamNumber
import Patchbay.Proofs.Watch.Configuration
