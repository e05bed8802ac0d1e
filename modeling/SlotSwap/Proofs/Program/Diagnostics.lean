import SlotSwap.Proofs.Log.Console
import SlotSwap.Proofs.Log.Part
import SlotSwap.Program

/-! The diagnostics of a run.

The environment of a run reaches its diagnostics and nothing else. There it can do three
things: have a part of the filter reported that is no directive, choose which of the events
are shown, and paint them. `diagnostics_only_select` says so for every environment without
an escape in its filter. An escape there would be quoted in a report, and could not be told
from the switches that colours are made of. -/
namespace SlotSwap.Program
open Log Log.Console Text

/-- The events of the program's run. -/
def events : List Emitted := emitted (Demo.run {}).1 (Demo.run {}).2

/-! ### Escapes -/

theorem escape_not_mem_ofInt (n : Int) : '\x1b' ∉ (Decimal.ofInt n).toList := by
  intro h
  rcases Decimal.isDigit_of_mem_ofInt h with h | h
  · exact absurd h (by decide)
  · exact absurd h (by decide)

/-- An event is unescaped when its message is and its fields are cells and numbers with
plain names. -/
theorem unescaped_of_numbers {event : Event} (hmessage : '\x1b' ∉ event.message.toList)
    (hnames : ∀ f ∈ event.fields, '\x1b' ∉ f.1.toList)
    (hnumbers : ∀ f ∈ event.fields, ∃ n, f.2 = Decimal.ofInt n) : Unescaped event := by
  refine ⟨hmessage, fun f hf => ⟨hnames f hf, ?_⟩⟩
  obtain ⟨n, hn⟩ := hnumbers f hf
  rw [hn]
  exact escape_not_mem_ofInt n

/-- Whatever the demonstration starts with, no event of it holds an escape. -/
theorem unescaped_of_mem_emitted (options : Demo.Options) {e : Emitted}
    (h : e ∈ emitted (Demo.run options).1 (Demo.run options).2) : Unescaped e.event := by
  have hcell (cell : Cell) : ∃ n, cell.display = Decimal.ofInt n := ⟨_, rfl⟩
  have hnumber (n : Nat) : ∃ k, Decimal.ofNat n = Decimal.ofInt k := ⟨.ofNat n, rfl⟩
  simp only [emitted, Demo.run, List.map_cons, List.map_nil, List.cons_append, List.nil_append,
    List.mem_cons, List.not_mem_nil, or_false] at h
  rcases h with rfl | rfl | rfl
  · exact unescaped_of_numbers (by simp) (by simp [Demo.fields]) (by simp [Demo.fields, hcell])
  · exact unescaped_of_numbers (by simp) (by simp [Demo.fields]) (by simp [Demo.fields, hcell])
  · exact unescaped_of_numbers (by simp) (by simp) (by simp [hcell, hnumber])

/-- Without their switches the diagnostics are those written without colours. -/
theorem bares_diagnostics (colours : Bool) {filter : Filter} {events : List Emitted}
    (hdropped : ∀ dropped ∈ filter.dropped, '\x1b' ∉ dropped.1)
    (hevents : ∀ e ∈ events, Unescaped e.event) :
    Bares (diagnostics colours filter events) (diagnostics false filter events) := by
  refine Bares.append (Bares.join fun dropped hmem => ?_) (Bares.join fun e hmem => ?_)
  · exact bares_droppedLine dropped.2 (hdropped dropped hmem)
  · exact bares_line colours (hevents e (List.mem_of_mem_filter hmem))

/-! ### The run -/

/-- **The environment selects and paints diagnostics and changes nothing else.** The status
is that of the demonstration and nothing is output, whatever the arguments, the filter and
the wish for colours. The diagnostics report the dropped parts of the filter, each in a line
that quotes it and says what is wrong with it, in their order, and then show some of the three
events, in the order in which they were emitted and each as it is. Of a filter made of levels,
targets and directives the dropped parts are those without a proper level. Without their
switches the diagnostics are what the same filter lets through without colours. -/
theorem diagnostics_only_select (environment : Environment)
    (hescape : '\x1b' ∉ (environment.filter.getD "").toList) :
    (run environment).status = (Demo.run {}).1.exitStatus ∧ (run environment).output = "" ∧
      events.map (·.event.message) = ["before exchange", "after exchange", "exiting"] ∧
      (∃ shown : List Emitted, shown.Sublist events ∧
        (run environment).diagnostics =
          String.join (environment.readFilter.dropped.map fun dropped =>
              "ignoring `" ++ String.ofList dropped.1 ++ "`: " ++ dropped.2.message ++ "\n") ++
            String.join (shown.map fun e => line environment.colours e.event)) ∧
      Misread.unknownLevel.message =
        "error parsing level filter: expected one of \"off\", \"error\", \"warn\", \"info\", " ++
          "\"debug\", \"trace\", or a number 0-5" ∧
      (∀ parts, (environment.filter.getD "").toList = Part.write parts →
        environment.readFilter.dropped = parts.filterMap Part.dropped?) ∧
      ∀ plain : Environment, plain.filter = environment.filter → plain.colours = false →
        bare (run environment).diagnostics = (run plain).diagnostics := by
  refine ⟨rfl, rfl, rfl, ⟨selected environment.readFilter events, List.filter_sublist, rfl⟩, rfl,
    fun parts hparts => ?_, fun plain hfilter hcolours => ?_⟩
  · rw [Environment.readFilter, hparts]
    exact Part.dropped_write parts
  · have hdropped : ∀ dropped ∈ environment.readFilter.dropped, '\x1b' ∉ dropped.1 :=
      fun _ hmem hc => hescape (mem_of_mem_dropped hmem hc)
    have hbare := (bares_diagnostics environment.colours hdropped
      fun _ => unescaped_of_mem_emitted {}).bare_eq
    have hread : plain.readFilter = environment.readFilter := by
      rw [Environment.readFilter, hfilter, Environment.readFilter]
    show bare (diagnostics environment.colours environment.readFilter events) =
      diagnostics plain.colours plain.readFilter events
    rw [hread, hcolours]
    exact hbare

/-- A target with no proper level is reported and an empty part is not. Of the two directives
left neither lets the last event through. -/
theorem diagnostics_only_select_mixed :
    let filter := "exchange=bogus,,info,exchange::demo=DEBUG"
    let coloured : Environment := ⟨["--help"], some filter, none⟩
    let plain : Environment := ⟨[], some filter, some "1"⟩
    '\x1b' ∉ filter.toList ∧ (run coloured).status = 200 ∧ (run coloured).output = "" ∧
      coloured.readFilter.dropped = [("exchange=bogus".toList, .unknownLevel)] ∧
      bare (run coloured).diagnostics = (run plain).diagnostics ∧
      (run plain).diagnostics =
        "ignoring `exchange=bogus`: error parsing level filter: expected one of \"off\", " ++
          "\"error\", \"warn\", \"info\", \"debug\", \"trace\", or a number 0-5\n" ++
          "DEBUG before exchange m=100 n=200\n INFO after exchange m=200 n=100\n" := by
  intro filter coloured plain
  let demo : Word := ⟨"exchange::demo".toList, by decide, by simp⟩
  let program : Word := ⟨"exchange".toList, by decide, by simp⟩
  let info : Word := ⟨"info".toList, by decide, by simp⟩
  have hescape : '\x1b' ∉ filter.toList := by decide
  obtain ⟨hstatus, houtput, -, -, -, hdropped, hbare⟩ :=
    diagnostics_only_select coloured hescape
  refine ⟨hescape, hstatus, houtput, ?_, hbare plain rfl (by decide), by decide +kernel⟩
  refine hdropped [.mispaired program "bogus".toList (by decide) (by decide) (by decide), .empty,
    .alone info, .paired demo "DEBUG".toList (by decide)] ?_
  simp [coloured, filter, Part.write, Part.text, program, demo, info]

end SlotSwap.Program
