import Tentacle.Python
import Tentacle.Domain
import Tentacle.Inbox.Summary
import Tentacle.Inbox.Wait
import Tentacle.Inbox.CreateTask
import Tentacle.FluxRuntime.GetTaskStatus
import Tentacle.Agreement
import Tentacle.Providers
import Tentacle.Release.Text
import Tentacle.Release.Semver
import Tentacle.Release.Versions
import Tentacle.Release.BumpVersions
import Tentacle.Release.ComputeBumps
import Tentacle.Release.Check
import Tentacle.Release.Git
import Tentacle.Release.Changelog
import Tentacle.Release.Detect
import Tentacle.Release.Manifest
import Tentacle.Release.Notes
import Tentacle.Release.Workflow
import Tentacle.Release.Apply
import Tentacle.Release.ReleaseId
