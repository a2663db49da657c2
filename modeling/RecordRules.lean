import RecordRules.Main
import RecordRules.Proofs.Check.DateOrder
import RecordRules.Proofs.Check.IntegerOrder
import RecordRules.Proofs.Check.OrderLaws
import RecordRules.Proofs.Check.RangeDemand
import RecordRules.Proofs.CommandLine.ExitCode
import RecordRules.Proofs.EngineHistory
import RecordRules.Proofs.Report.RoundTrip
import RecordRules.Proofs.Rule.CrossFieldFallback
import RecordRules.Proofs.Rule.Reload
import RecordRules.Proofs.Rule.RoundTrip
import RecordRules.Proofs.RuleSet.BrokenConditions
import RecordRules.Proofs.RuleSet.CacheHits
import RecordRules.Proofs.RuleSet.Duplicates
import RecordRules.Proofs.Target.Glob
import RecordRules.Rule.Outline
import RecordRules.Storage.RuleFile
import RecordRules.Proofs.Coercion.Display
import RecordRules.Proofs.Check.RequiredField
import RecordRules.Proofs.Document.FirstFault
import RecordRules.Proofs.Document.Writable
import RecordRules.Proofs.Storage.Session
import RecordRules.Proofs.Check.FirstFailure
import RecordRules.Proofs.RuleSet.Explanation
import RecordRules.Proofs.Report.Partition
import RecordRules.Proofs.Check.Business
import RecordRules.Proofs.PatternCache.Contents
