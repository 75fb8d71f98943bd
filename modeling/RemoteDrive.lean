import RemoteDrive.Json.Printer
import RemoteDrive.Config.Location
import RemoteDrive.Yaml.Record
import RemoteDrive.Session.Run
import RemoteDrive.Drive.Run
import RemoteDrive.Proofs.Session.Renewal
import RemoteDrive.Proofs.Session.Provenance
import RemoteDrive.Proofs.Session.Overrun
import RemoteDrive.Proofs.Drive.Supply
import RemoteDrive.Proofs.Drive.Secrecy
import RemoteDrive.Proofs.Drive.Crowd
import RemoteDrive.Proofs.Drive.Put
import RemoteDrive.Proofs.Drive.Configured
import RemoteDrive.Proofs.Drive.Folder
import RemoteDrive.Proofs.Drive.Echo
import RemoteDrive.Proofs.Session.Acceptance
import RemoteDrive.Proofs.Drive.Identity
import RemoteDrive.Proofs.Drive.Objects
import RemoteDrive.Proofs.Upload.Progress
import RemoteDrive.Proofs.Number.Code
import RemoteDrive.Proofs.Number.Numeral
import RemoteDrive.Proofs.Number.Size
import RemoteDrive.Proofs.Time.Layouts
import RemoteDrive.Proofs.Stored
import RemoteDrive.Proofs.Overlay
import RemoteDrive.Proofs.Drive.Inquiry
import RemoteDrive.Proofs.Drive.Log
