import SqlBatch.Command
import SqlBatch.Config
import SqlBatch.Render.Action
import SqlBatch.Store.Basic
import SqlBatch.Store.Sqlite
import SqlBatch.Tree.Agreement
import SqlBatch.Proofs.Batch.Balance
import SqlBatch.Proofs.Batch.Cancellation
import SqlBatch.Proofs.Batch.Refusal
import SqlBatch.Proofs.Batch.RunOnce
import SqlBatch.Proofs.Batch.Spent
import SqlBatch.Proofs.Batch.Triggers
import SqlBatch.Proofs.Render.Frame
import SqlBatch.Proofs.Store.Projection
import SqlBatch.Proofs.Text.Quoted
import SqlBatch.Proofs.Tree.Arithmetic
import SqlBatch.Proofs.Tree.Comments
import SqlBatch.Proofs.Tree.Confinement
import SqlBatch.Proofs.Tree.Contents
import SqlBatch.Proofs.Tree.Literals
import SqlBatch.Proofs.Tree.Logic
import SqlBatch.Proofs.Tree.Members
import SqlBatch.Proofs.Tree.Modes
import SqlBatch.Proofs.Tree.Offset
import SqlBatch.Proofs.Tree.Pages
import SqlBatch.Proofs.Render.Appending
import SqlBatch.Proofs.Tree.Combination
import SqlBatch.Proofs.Render.Order
import SqlBatch.Proofs.Store.Columns
import SqlBatch.Proofs.Tree.Flattening
import SqlBatch.Proofs.Tree.Operands
import SqlBatch.Proofs.Render.Lifetimes
import SqlBatch.Proofs.Tree.Names
