import ItemFlow.CommandLine.FileTree
import ItemFlow.Main
import ItemFlow.Proofs.Schedules
import ItemFlow.Proofs.Stage.Setup
import ItemFlow.Proofs.Conf.Static
import ItemFlow.Proofs.Stage.Faults
import ItemFlow.Proofs.Passage
import ItemFlow.Proofs.Requests
import ItemFlow.Proofs.Failure
import ItemFlow.Proofs.Batches
import ItemFlow.Proofs.Feeding
import ItemFlow.Proofs.Inert
import ItemFlow.Proofs.Nesting
import ItemFlow.Proofs.Conf.Declared
import ItemFlow.Proofs.JsonLines
import ItemFlow.Proofs.Rule.Split
import ItemFlow.Proofs.Rule.Partition
import ItemFlow.Proofs.Rule.Substitution
import ItemFlow.Proofs.Rule.Retention
import ItemFlow.Proofs.Item.Stored
import ItemFlow.Proofs.Item.Elsewhere
import ItemFlow.Proofs.Template
import ItemFlow.Proofs.Integers
