import ObjectLocks.Backoff
import ObjectLocks.Flag.Call
import ObjectLocks.Main
import ObjectLocks.Preset
import ObjectLocks.Proofs.Assertions
import ObjectLocks.Proofs.ExitDepth
import ObjectLocks.Proofs.FailedParse
import ObjectLocks.Proofs.FlagParsing
import ObjectLocks.Proofs.FlagQueries
import ObjectLocks.Proofs.Handoff
import ObjectLocks.Proofs.HashAgreement
import ObjectLocks.Proofs.IllegalExit
import ObjectLocks.Proofs.Inflation
import ObjectLocks.Proofs.LightUse
import ObjectLocks.Proofs.LockStack.Use
import ObjectLocks.Proofs.MonitorCache
import ObjectLocks.Proofs.MutualExclusion
import ObjectLocks.Proofs.NoSafepoint
import ObjectLocks.Proofs.Numerals
import ObjectLocks.Proofs.OneMonitor
import ObjectLocks.Proofs.Placement
import ObjectLocks.Proofs.QuickEnter
import ObjectLocks.Proofs.RecordLifetime
import ObjectLocks.Proofs.Refinement
import ObjectLocks.Proofs.SafepointExclusion
import ObjectLocks.Proofs.SafepointHolder
import ObjectLocks.Proofs.Spelling
import ObjectLocks.Proofs.StateRestoration
import ObjectLocks.Proofs.Word.Laws
import ObjectLocks.Script.Session
