import SlotSwap.Main
import SlotSwap.Number.Reading
import SlotSwap.Slots.Empty
import SlotSwap.Slots.Run
import SlotSwap.Store
import SlotSwap.Proofs.Slots.Call
import SlotSwap.Proofs.Slots.Contract
import SlotSwap.Proofs.Slots.Window
import SlotSwap.Proofs.Slots.Permutation
import SlotSwap.Proofs.Slots.Journal
import SlotSwap.Proofs.Slots.Clients
import SlotSwap.Proofs.Slots.Reachability
import SlotSwap.Proofs.Slots.Parity
import SlotSwap.Proofs.Slots.Contents
import SlotSwap.Proofs.Slots.Commutation
import SlotSwap.Proofs.Slots.ErrorText
import SlotSwap.Proofs.Store.Exchange
import SlotSwap.Proofs.Store.Conservation
import SlotSwap.Proofs.Store.Atomicity
import SlotSwap.Proofs.Store.Writes
import SlotSwap.Proofs.Text.Numeral
import SlotSwap.Proofs.Text.Spelling
import SlotSwap.Proofs.Text.Record
import SlotSwap.Proofs.Text.Field
import SlotSwap.Proofs.Value.Whole
import SlotSwap.Proofs.Cell.Observation
import SlotSwap.Proofs.Json.Number
import SlotSwap.Proofs.Json.Grammar
import SlotSwap.Proofs.Json.RoundTrip
import SlotSwap.Proofs.Json.Literal
import SlotSwap.Proofs.Json.Source
import SlotSwap.Proofs.Json.Steady
import SlotSwap.Proofs.Json.Lookahead
import SlotSwap.Proofs.Json.Refused
import SlotSwap.Proofs.Log.Console
import SlotSwap.Proofs.Log.Part
import SlotSwap.Proofs.Log.Decision
import SlotSwap.Proofs.Log.Demand
import SlotSwap.Proofs.Program.Diagnostics
import SlotSwap.Proofs.Program.Selection
import SlotSwap.Proofs.Demo.Outcome
