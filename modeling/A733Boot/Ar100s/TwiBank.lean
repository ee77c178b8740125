/-
The two-wire interface on a controller that behaves as the driver expects, with devices behind
it that have registers.

The controller is a model of the hardware, not of the source: it knows the status codes that the
driver looks for. Each event takes a time of its own, counted in reads of the control register:
`lag` says how many of them show no interrupt flag.

* `Controller`, `controller`: the controller and the devices, as a hardware;
* `clearIrqFlag_leads`, `poll_leads`: what the driver's waits do on it;
* `byteRw_leads`: one transfer, of up to four bytes;
* `Bus.call`: what a call of `twi_read`, `twi_write` or `twi_clkchangecb` is for;
* `transfers_refine` (**refinement**): any sequence of calls does on the devices what it does on
  arrays of registers.
-/
import A733Boot.Ar100s.TwiBus

namespace A733Boot.Ar100s.Twi

open OptionT (lift)

/-- Where the controller is in a transfer. -/
inductive Phase
  | idle
  | started
  | restarted
  | pointed (dev : UInt8)
  | written (dev : UInt8)
  | reading (dev : UInt8)
  | received (dev : UInt8) (ack : Bool)
  | refused (read : Bool)
deriving DecidableEq

def Phase.code : Phase → UInt32
  | idle => 0xf8
  | started => 0x08
  | restarted => 0x10
  | pointed _ => 0x18
  | written _ => 0x28
  | reading _ => 0x40
  | received _ ack => if ack then 0x50 else 0x58
  | refused read => if read then 0x48 else 0x20

/-- The registers of the devices that are there, by the address of the device. -/
abbrev Bank := UInt8 → Option (UInt8 → UInt8)

/-- The state of the controller: the interrupt flag shows after so many reads, if an event is
under way; `events` counts those that have been. -/
structure Controller where
  phase : Phase
  flag : Option ℕ
  startBit : Bool
  stopBit : Bool
  ack : Bool
  data : UInt8
  pointer : UInt8
  bank : Bank
  events : ℕ

/-- How many reads of the control register an event takes, and which register of a device
follows on which. -/
structure Behaviour where
  lag : ℕ → ℕ
  advance : UInt8 → UInt8

/-- The control register. -/
def ctrWord (start stop flag ack : Bool) : UInt32 :=
  twiBusEnb ||| (if start then twiMstart else 0) ||| (if stop then twiMstop else 0) |||
    (if flag then twiIntflag else 0) ||| if ack then twiAack else 0

namespace Controller

variable (b : Behaviour) (c : Controller)

/-- What the next byte on the bus does. -/
def byte : Controller :=
  match c.phase with
  | .started | .restarted =>
      let dev := c.data >>> 1
      match c.bank dev with
      | none => { c with phase := .refused (c.data &&& 1 ≠ 0) }
      | some _ => { c with phase := if c.data &&& 1 = 0 then .pointed dev else .reading dev }
  | .pointed dev => { c with phase := .written dev, pointer := c.data }
  | .written dev =>
      { c with
        bank := Function.update c.bank dev
          ((c.bank dev).map fun regs => Function.update regs c.pointer c.data)
        pointer := b.advance c.pointer }
  | .reading dev | .received dev true =>
      { c with
        phase := .received dev c.ack
        data := ((c.bank dev).map fun regs => regs c.pointer).getD 0xff
        pointer := b.advance c.pointer }
  | _ => c

/-- The event under way. -/
def event (c : Controller) : Controller :=
  { c with flag := some (b.lag c.events), events := c.events + 1 }

/-- The interrupt flag is cleared, and the controller goes on. -/
def goOn : Controller :=
  if c.stopBit then { c with phase := .idle, flag := none, startBit := false, stopBit := false }
  else if c.startBit then event b { c with phase := .restarted, startBit := false }
  else event b (c.byte b)

def readCtr : UInt32 := ctrWord c.startBit c.stopBit (c.flag = some 0) c.ack

def writeCtr (v : UInt32) : Controller :=
  let c := { c with
    ack := v &&& twiAack ≠ 0, startBit := v &&& twiMstart ≠ 0, stopBit := v &&& twiMstop ≠ 0 }
  if v &&& twiIntflag ≠ 0 ∧ c.flag = some 0 then c.goOn b
  else if c.phase = .idle ∧ c.startBit then event b { c with phase := .started, startBit := false }
  else c

end Controller

/-- The controller as a hardware. -/
def controller (b : Behaviour) : Hardware Controller where
  read a c :=
    if a = twiCtr then (c.readCtr, { c with flag := c.flag.map (· - 1) })
    else if a = twiStr then (if c.flag = some 0 then c.phase.code else 0xf8, c)
    else if a = twiDtr then (c.data.toUInt32, c)
    else if a = twiLcr then (if c.phase = .idle then 0x3a else 0, c)
    else (0, c)
  write a v c :=
    if a = twiCtr then c.writeCtr b v
    else if a = twiDtr then { c with data := v.toUInt8 }
    else c

/-! ### One access -/

section Accesses

variable {b : Behaviour} {c : Controller}

lemma ctrWord_bits : ∀ start stop flag ack : Bool,
    (decide (ctrWord start stop flag ack &&& twiMstart ≠ 0) = start) ∧
    (decide (ctrWord start stop flag ack &&& twiMstop ≠ 0) = stop) ∧
    (decide (ctrWord start stop flag ack &&& twiIntflag ≠ 0) = flag) ∧
    (decide (ctrWord start stop flag ack &&& twiAack ≠ 0) = ack) := by decide

lemma ctrWord_or_intflag : ∀ start stop flag ack : Bool,
    ctrWord start stop flag ack ||| twiIntflag = ctrWord start stop true ack := by decide

lemma ctrWord_or_mstart : ∀ start stop flag ack : Bool,
    (ctrWord start stop flag ack ||| twiMstart) &&& ~~~twiIntflag =
      ctrWord true stop false ack := by decide

lemma ctrWord_or_mstop : ∀ start stop flag ack : Bool,
    (ctrWord start stop flag ack ||| twiMstop) &&& ~~~twiIntflag =
      ctrWord start true false ack := by decide

lemma ctrWord_or_aack : ∀ start stop flag ack : Bool,
    (ctrWord start stop flag ack ||| twiAack) &&& ~~~twiIntflag =
      ctrWord start stop false true := by decide

lemma ctrWord_not_aack : ∀ start stop flag ack : Bool,
    ctrWord start stop flag ack &&& 0xff &&& ~~~twiAack &&& ~~~twiIntflag =
      ctrWord start stop false false := by decide

/-- A write that does not clear the flag, of a word that the driver puts together. -/
lemma writeCtr_ctrWord (start stop ack : Bool) (hphase : ¬ (c.phase = .idle ∧ start = true)) :
    c.writeCtr b (ctrWord start stop false ack) =
      { c with startBit := start, stopBit := stop, ack := ack } := by
  obtain ⟨hstart, hstop, hflag, hack⟩ := ctrWord_bits start stop false ack
  have hno : ¬ ctrWord start stop false ack &&& twiIntflag ≠ 0 := of_decide_eq_false hflag
  rw [Controller.writeCtr, hstart, hstop, hack, if_neg fun h => hno h.1, if_neg hphase]

/-- The write that clears the flag changes no other bit. -/
lemma writeCtr_intflag (hflag : c.flag = some 0) :
    c.writeCtr b (c.readCtr ||| twiIntflag) = c.goOn b := by
  rw [Controller.readCtr, ctrWord_or_intflag]
  obtain ⟨hstart, hstop, hset, hack⟩ := ctrWord_bits c.startBit c.stopBit true c.ack
  have hyes : ctrWord c.startBit c.stopBit true c.ack &&& twiIntflag ≠ 0 := of_decide_eq_true hset
  rw [Controller.writeCtr, hstart, hstop, hack, if_pos ⟨hyes, hflag⟩]

lemma after_ctr (k : ℕ) :
    (controller b).after twiCtr k c = { c with flag := c.flag.map (· - k) } := by
  induction k generalizing c with
  | zero => simp [Hardware.after]
  | succ k ih =>
    rw [Hardware.after, show ((controller b).read twiCtr c).2 =
      { c with flag := c.flag.map (· - 1) } from rfl, ih]
    simp [Option.map_map, Function.comp_def, Nat.sub_sub, Nat.add_comm]

/-- The interrupt flag, as the driver sees it. -/
lemma readCtr_intflag : decide (c.readCtr &&& twiIntflag ≠ 0) = decide (c.flag = some 0) :=
  (ctrWord_bits c.startBit c.stopBit (c.flag = some 0) c.ack).2.2.1

/-- Reads while no event is under way change nothing. -/
lemma readl_ctr_leads (hstill : c.flag.map (· - 1) = c.flag) (x : Buffer) :
    Leads ((controller b).readl twiCtr) c x c.readCtr c x := by
  have h := Leads.readl (h := controller b) (c := c) (x := x) twiCtr
  rwa [show ((controller b).read twiCtr c).2 = { c with flag := c.flag.map (· - 1) } from rfl,
    hstill] at h

lemma readl_str_leads (hflag : c.flag = some 0) (x : Buffer) :
    Leads ((controller b).readl twiStr) c x c.phase.code c x := by
  have h := Leads.readl (h := controller b) (c := c) (x := x) twiStr
  rwa [show (controller b).read twiStr c = (if c.flag = some 0 then c.phase.code else 0xf8, c)
    from rfl, if_pos hflag] at h

lemma readl_dtr_leads (x : Buffer) :
    Leads ((controller b).readl twiDtr) c x c.data.toUInt32 c x := Leads.readl twiDtr

/-- The flag is cleared and an event starts, or none does; two reads of it have passed. -/
lemma clearIrqFlag_leads {d : Controller} (hflag : c.flag = some 0) (hon : c.goOn b = d)
    (hlag : ∀ n, d.flag = some n → 2 ≤ n) (x : Buffer) :
    Leads (twiClearIrqFlag (controller b)) c x () { d with flag := d.flag.map (· - 2) } x := by
  have hwrite : (controller b).write twiCtr (c.readCtr ||| twiIntflag) c = d :=
    (writeCtr_intflag hflag).trans hon
  have hfree : decide (((controller b).read twiCtr
      { d with flag := d.flag.map (· - 1) }).1 &&& twiIntflag ≠ 0) = false := by
    refine readCtr_intflag.trans (decide_eq_false fun hset => ?_)
    obtain ⟨n, hn, hone⟩ := Option.map_eq_some_iff.mp hset
    have := hlag n hn
    omega
  have hlast : ((controller b).read twiCtr { d with flag := d.flag.map (· - 1) }).2 =
      { d with flag := d.flag.map (· - 2) } := by
    rw [← after_ctr 2]
    rfl
  refine (readl_ctr_leads (by rw [hflag]; rfl) x).bind ((Leads.writel _ _).bind ?_)
  rw [hwrite]
  refine (Leads.readl twiCtr).bind ?_
  rw [← hlast]
  exact Leads.waitWhile hfree

/-- The event shows up in time. -/
lemma poll_leads {n N : ℕ} (hflag : c.flag = some n) (hn : n < N) (x : Buffer) :
    Leads ((controller b).pollUntil twiCtr (fun v => v &&& twiIntflag ≠ 0) N) c x true
      { c with flag := some 0 } x := by
  have hread (i : ℕ) : decide (((controller b).read twiCtr
      ((controller b).after twiCtr i c)).1 &&& twiIntflag ≠ 0) = decide (n - i = 0) := by
    rw [after_ctr, hflag]
    refine readCtr_intflag.trans (decide_eq_decide.mpr ?_)
    simp
  have hlast : (controller b).after twiCtr (n + 1) c = { c with flag := some 0 } := by
    rw [after_ctr, hflag, Option.map_some, Nat.sub_eq_zero_of_le (Nat.le_succ n)]
  rw [← hlast]
  refine Leads.pollUntil hn (fun i hi => (hread i).trans (decide_eq_false ?_))
    ((hread n).trans (decide_eq_true (Nat.sub_self n)))
  omega

lemma orStopOut_leads (p : Prop) [Decidable p] (c : Controller) (x : Buffer) :
    Leads (orStopOut p).run c x (if p then some () else none) c x := by
  by_cases hp : p
  · rw [orStopOut, if_pos hp, if_pos hp]
    exact Leads.pure (some ())
  · rw [orStopOut, if_neg hp, if_neg hp]
    exact Leads.pure none

/-- The status code of a finished event is the expected one, or the driver jumps. -/
lemma check_leads {n N : ℕ} {status : Driver Controller Buffer UInt32} {state code : UInt32}
    {d : Controller} {x y : Buffer} (hflag : c.flag = some n) (hn : n < N)
    (hstatus : Leads status { c with flag := some 0 } x state d y) :
    Leads (twiCheck (controller b) N status code).run c x
      (if state = code then some () else none) d y := by
  have hset := orStopOut_leads (true = true) { c with flag := some 0 } x
  rw [if_pos rfl] at hset
  exact (Leads.lift (poll_leads hflag hn x)).attempt <| hset.attempt <|
    (Leads.lift hstatus).attempt (orStopOut_leads _ d y)

lemma check_pass {n N : ℕ} {status : Driver Controller Buffer UInt32} {code : UInt32}
    {d : Controller} {x y : Buffer} (hflag : c.flag = some n) (hn : n < N)
    (hstatus : Leads status { c with flag := some 0 } x code d y) :
    Leads (twiCheck (controller b) N status code).run c x (some ()) d y := by
  have h := @check_leads b c n N status code code d x y hflag hn hstatus
  rwa [if_pos rfl] at h

lemma expect_leads {n N : ℕ} (hflag : c.flag = some n) (hn : n < N) (code : UInt32)
    (x : Buffer) :
    Leads (twiExpect (controller b) N code).run c x
      (if c.phase.code = code then some () else none) { c with flag := some 0 } x := by
  exact check_leads hflag hn (readl_str_leads (c := { c with flag := some 0 }) rfl x)

lemma expect_attempt {n N : ℕ} {code : UInt32} {x y : Buffer} {q : Option Unit} {d : Controller}
    {rest : Attempt Controller Buffer Unit} (hflag : c.flag = some n) (hn : n < N)
    (hcode : c.phase.code = code) (hrest : Leads rest.run { c with flag := some 0 } x q d y) :
    Leads (twiExpect (controller b) N code >>= fun _ => rest).run c x q d y := by
  have h := expect_leads (b := b) hflag hn code x
  rw [if_pos hcode] at h
  exact h.attempt hrest

end Accesses

/-! ### One byte -/

/-- The controller waits for the driver, with no request of a condition. -/
structure Controller.Paused (c : Controller) : Prop where
  flag : c.flag = some 0
  start : c.startBit = false
  stop : c.stopBit = false

/-- The controller behind the next byte. -/
def Controller.next (b : Behaviour) (c : Controller) : Controller :=
  { c.byte b with flag := some 0, events := c.events + 1 }

/-- An event takes longer than the two reads behind a cleared flag, and shows up while the
driver waits for it. -/
def Behaviour.Prompt (b : Behaviour) : Prop := ∀ n, 2 ≤ b.lag n ∧ b.lag n < twiCheckTimeout

section Byte

variable {b : Behaviour} {c : Controller}

lemma byte_frame (b : Behaviour) (c : Controller) :
    (c.byte b).flag = c.flag ∧ (c.byte b).startBit = c.startBit ∧
      (c.byte b).stopBit = c.stopBit ∧ (c.byte b).events = c.events ∧ (c.byte b).ack = c.ack := by
  cases hdev : c.bank (c.data >>> 1) with
  | none =>
    simp only [Controller.byte, hdev]
    split <;> exact ⟨rfl, rfl, rfl, rfl, rfl⟩
  | some regs =>
    simp only [Controller.byte, hdev]
    split <;> exact ⟨rfl, rfl, rfl, rfl, rfl⟩

lemma Controller.Paused.next (hc : c.Paused) : (c.next b).Paused :=
  ⟨rfl, (byte_frame b c).2.1.trans hc.start, (byte_frame b c).2.2.1.trans hc.stop⟩

/-- Without a request of a condition, the next event is a byte. -/
lemma Controller.Paused.goOn (hc : c.Paused) : c.goOn b = Controller.event b (c.byte b) := by
  rw [Controller.goOn, hc.stop, hc.start, if_neg Bool.false_ne_true, if_neg Bool.false_ne_true]

/-- The flag is cleared, and the byte is on its way. -/
lemma Controller.Paused.clear_leads (hc : c.Paused) (hb : b.Prompt) (x : Buffer) :
    ∃ n < twiCheckTimeout, Leads (twiClearIrqFlag (controller b)) c x ()
      { c.next b with flag := some n } x := by
  have hlag := hb c.events
  have hevents := (byte_frame b c).2.2.2.1
  refine ⟨b.lag c.events - 2, by omega, ?_⟩
  have h := clearIrqFlag_leads hc.flag (hc.goOn (b := b))
    (fun n hn => Option.some.inj hn ▸ (hb (c.byte b).events).1) x
  simp only [Controller.event, Option.map_some, hevents] at h
  exact h

variable {N : ℕ} {rest : Attempt Controller Buffer Unit} {q : Option Unit} {d : Controller}
  {x y : Buffer}

/-- A byte is sent, and the status code is the expected one. -/
lemma Controller.Paused.say (hc : c.Paused) (hb : b.Prompt) (hN : twiCheckTimeout ≤ N)
    {v code : UInt32} (hcode : ({ c with data := v.toUInt8 }.next b).phase.code = code)
    (hrest : Leads rest.run ({ c with data := v.toUInt8 }.next b) x q d y) :
    Leads (lift (twiSendByte (controller b) v) >>= fun _ => twiExpect (controller b) N code >>=
      fun _ => rest).run c x q d y := by
  have hpaused : ({ c with data := v.toUInt8 } : Controller).Paused := ⟨hc.flag, hc.start, hc.stop⟩
  obtain ⟨n, hn, hclear⟩ := hpaused.clear_leads hb x
  exact (Leads.lift ((Leads.writel v twiDtr).bind hclear)).attempt
    (expect_attempt (c := { { c with data := v.toUInt8 }.next b with flag := some n }) rfl
      (show n < N by omega) hcode hrest)

/-- A byte is sent, and the driver jumps on the status code. -/
lemma Controller.Paused.say_jump (hc : c.Paused) (hb : b.Prompt) (hN : twiCheckTimeout ≤ N)
    {v code : UInt32} (hcode : ({ c with data := v.toUInt8 }.next b).phase.code ≠ code) :
    Leads (lift (twiSendByte (controller b) v) >>= fun _ => twiExpect (controller b) N code >>=
      fun _ => rest).run c x none ({ c with data := v.toUInt8 }.next b) x := by
  have hpaused : ({ c with data := v.toUInt8 } : Controller).Paused := ⟨hc.flag, hc.start, hc.stop⟩
  obtain ⟨n, hn, hclear⟩ := hpaused.clear_leads hb x
  have hexpect := expect_leads (b := b) (c := { { c with data := v.toUInt8 }.next b with
    flag := some n }) rfl (show n < N by omega) code x
  rw [if_neg hcode] at hexpect
  exact (Leads.lift ((Leads.writel v twiDtr).bind hclear)).attempt hexpect.jump

end Byte

/-! ### The bytes of a transfer -/

/-- The registers of a device, with the bytes stored from one of them on. -/
def store (advance : UInt8 → UInt8) : (UInt8 → UInt8) → UInt8 → List UInt8 → UInt8 → UInt8
  | regs, _, [] => regs
  | regs, reg, v :: l => store advance (Function.update regs reg v) (advance reg) l

/-- The contents of so many registers, from one of them on. -/
def fetch (advance regs : UInt8 → UInt8) : UInt8 → ℕ → List UInt8
  | _, 0 => []
  | reg, n + 1 => regs reg :: fetch advance regs (advance reg) n

/-- The buffers with the bytes stored from an index on. -/
def fill : Buffer → ℕ → List UInt8 → Buffer
  | x, _, [] => x
  | x, i, v :: l => fill (Function.update x i v) (i + 1) l

section Data

variable {b : Behaviour} {dev : UInt8} {regs : UInt8 → UInt8}

/-- The loop over the bytes to be written, in a device that is there. -/
lemma sendData_leads (hb : b.Prompt) (x : Buffer) (i n : ℕ) {c : Controller} (hc : c.Paused)
    (hphase : c.phase = .written dev) (hdev : c.bank dev = some regs) :
    ∃ d : Controller, d.Paused ∧
      d.bank = Function.update c.bank dev
        (some (store b.advance regs c.pointer (bufferBytes x i n))) ∧
      Leads (twiSendData (controller b) i n).run c x (some ()) d x := by
  induction n generalizing i c regs with
  | zero =>
    refine ⟨c, hc, ?_, Leads.pure (some ())⟩
    rw [bufferBytes, List.range_zero, List.map_nil, store, ← hdev, Function.update_eq_self]
  | succ n ih =>
    have hnext : { c with data := (x i).toUInt32.toUInt8 }.next b = { c with
        data := x i, flag := some 0, events := c.events + 1, pointer := b.advance c.pointer
        bank := Function.update c.bank dev (some (Function.update regs c.pointer (x i))) } := by
      simp [Controller.next, Controller.byte, hphase, hdev]
    have hpaused : ({ c with data := (x i).toUInt32.toUInt8 }.next b).Paused :=
      Controller.Paused.next ⟨hc.flag, hc.start, hc.stop⟩
    obtain ⟨d, hd, hbank, hrun⟩ := ih (i + 1) hpaused (by rw [hnext]; exact hphase)
      (show _ = some (Function.update regs c.pointer (x i)) by rw [hnext]; simp)
    refine ⟨d, hd, ?_, (Leads.lift Leads.getMem).attempt (hc.say hb (Nat.le_succ _) ?_ hrun)⟩
    · rw [hbank, bufferBytes_succ, store, hnext]
      simp
    · rw [hnext]
      exact congrArg Phase.code hphase

/-- The next byte is let in. -/
lemma nextByte_leads (hb : b.Prompt) (x : Buffer) (n : ℕ) {c : Controller} (hc : c.Paused) :
    ∃ k < twiCheckTimeout, Leads (twiNextByte (controller b) n) c x ()
      { { c with ack := decide (n ≠ 0) && c.ack }.next b with flag := some k } x := by
  have hpaused : ({ c with ack := decide (n ≠ 0) && c.ack } : Controller).Paused :=
    ⟨hc.flag, hc.start, hc.stop⟩
  obtain ⟨k, hk, hclear⟩ := hpaused.clear_leads hb x
  refine ⟨k, hk, Leads.bind (r := ()) ?_ hclear⟩
  cases n with
  | zero =>
    have hwrite : (controller b).write twiCtr
        (c.readCtr &&& 0xff &&& ~~~twiAack &&& ~~~twiIntflag) c = { c with ack := false } := by
      refine (congrArg (c.writeCtr b) (ctrWord_not_aack _ _ _ _)).trans
        (writeCtr_ctrWord _ _ _ fun h => ?_)
      rw [hc.start] at h
      exact Bool.false_ne_true h.2
    rw [if_pos rfl]
    refine (readl_ctr_leads (by rw [hc.flag]; rfl) x).bind ?_
    have h := Leads.writel (h := controller b) (c := c) (x := x)
      (c.readCtr &&& 0xff &&& ~~~twiAack &&& ~~~twiIntflag) twiCtr
    rwa [hwrite] at h
  | succ n => exact Leads.pure ()

/-- The controller behind a byte that came in. -/
def Controller.came (b : Behaviour) (c : Controller) (dev v : UInt8) (ack : Bool) : Controller :=
  { c with
    phase := .received dev ack, data := v, flag := some 0, ack := ack, events := c.events + 1
    pointer := b.advance c.pointer }

/-- The byte that comes in is stored, and its status code is the expected one. -/
lemma getByte_leads (hb : b.Prompt) (i n : ℕ) (x : Buffer) {c : Controller} (hc : c.Paused)
    (hack : c.ack = true) (hphase : c.phase = .reading dev ∨ c.phase = .received dev true)
    (hdev : c.bank dev = some regs) :
    Leads (twiGetByte (controller b) i n).run c x (some ())
      (c.came b dev (regs c.pointer) (decide (n ≠ 0))) (Function.update x i (regs c.pointer)) := by
  have hnext : { c with ack := decide (n ≠ 0) && c.ack }.next b =
      c.came b dev (regs c.pointer) (decide (n ≠ 0)) := by
    rcases hphase with hphase | hphase
    · simp [Controller.next, Controller.came, Controller.byte, hphase, hdev, hack]
    · simp [Controller.next, Controller.came, Controller.byte, hphase, hdev, hack]
  obtain ⟨k, hk, hin⟩ := nextByte_leads hb x n hc
  rw [hnext] at hin
  have hstore : Leads (twiStoreByte (controller b) i)
      (c.came b dev (regs c.pointer) (decide (n ≠ 0))) x (if n ≠ 0 then 0x50 else 0x58)
      (c.came b dev (regs c.pointer) (decide (n ≠ 0))) (Function.update x i (regs c.pointer)) := by
    refine (readl_dtr_leads x).bind ((Leads.modifyMem _).bind ?_)
    have h := readl_str_leads (b := b) (c := c.came b dev (regs c.pointer) (decide (n ≠ 0))) rfl
      (Function.update x i (regs c.pointer))
    simpa only [Controller.came, Phase.code, decide_eq_true_eq, UInt8.toUInt8_toUInt32] using h
  rw [← if_congr (Nat.pos_iff_ne_zero (n := n)) rfl rfl] at hstore
  exact (Leads.lift hin).attempt (check_pass (b := b)
    (c := { c.came b dev (regs c.pointer) (decide (n ≠ 0)) with flag := some k }) rfl
    (Nat.lt_succ_of_lt hk) hstore)

/-- The loop over the bytes to be read, from a device that is there. -/
lemma getData_leads (hb : b.Prompt) (i n : ℕ) (x : Buffer) {c : Controller} (hc : c.Paused)
    (hack : c.ack = true) (hphase : c.phase = .reading dev ∨ c.phase = .received dev true)
    (hdev : c.bank dev = some regs) :
    ∃ d : Controller, d.Paused ∧ d.bank = c.bank ∧
      Leads (twiGetData (controller b) i n).run c x (some ()) d
        (fill x i (fetch b.advance regs c.pointer n)) := by
  induction n generalizing i c x with
  | zero => exact ⟨c, hc, rfl, Leads.pure (some ())⟩
  | succ n ih =>
    have hbyte := getByte_leads hb i n x hc hack hphase hdev
    have hpaused : (c.came b dev (regs c.pointer) (decide (n ≠ 0))).Paused :=
      ⟨rfl, hc.start, hc.stop⟩
    cases n with
    | zero => exact ⟨_, hpaused, rfl, hbyte.attempt (Leads.pure (some ()))⟩
    | succ n =>
      obtain ⟨d, hd, hbank, hrun⟩ := ih (i + 1) (Function.update x i (regs c.pointer)) hpaused rfl
        (.inr rfl) hdev
      exact ⟨d, hd, hbank, hbyte.attempt hrun⟩

end Data

/-! ### Conditions and addresses -/

/-- Nothing goes on on the bus. -/
structure Controller.Idle (c : Controller) : Prop where
  phase : c.phase = .idle
  flag : c.flag = none
  start : c.startBit = false
  stop : c.stopBit = false

/-- The seven bits of a device address. -/
def busAddress (saddr : UInt8) : UInt8 := saddr &&& 0x7f

/-- The byte that addresses a device, with the direction in its last bit. -/
lemma address_byte (saddr : UInt8) :
    ((saddr.toUInt32 <<< 1 &&& 0xfe).toUInt8 >>> 1 = busAddress saddr ∧
      (saddr.toUInt32 <<< 1 &&& 0xfe).toUInt8 &&& 1 = 0) ∧
    (saddr.toUInt32 <<< 1 ||| 1).toUInt8 >>> 1 = busAddress saddr ∧
      ¬ (saddr.toUInt32 <<< 1 ||| 1).toUInt8 &&& 1 = 0 := by
  have h : ∀ n < 256, ((((UInt8.ofNat n).toUInt32 <<< 1 &&& 0xfe).toUInt8 >>> 1 =
      busAddress (UInt8.ofNat n) ∧ ((UInt8.ofNat n).toUInt32 <<< 1 &&& 0xfe).toUInt8 &&& 1 = 0) ∧
      ((UInt8.ofNat n).toUInt32 <<< 1 ||| 1).toUInt8 >>> 1 = busAddress (UInt8.ofNat n) ∧
      ¬ ((UInt8.ofNat n).toUInt32 <<< 1 ||| 1).toUInt8 &&& 1 = 0) := by decide +kernel
  simpa only [UInt8.ofNat_toNat] using h saddr.toNat saddr.toNat_lt

section Conditions

variable {b : Behaviour} {c : Controller}

lemma twiStart_write (c : Controller) :
    (controller b).write twiCtr ((c.readCtr ||| twiMstart) &&& ~~~twiIntflag) c =
      c.writeCtr b (ctrWord true c.stopBit false c.ack) :=
  congrArg (c.writeCtr b) (ctrWord_or_mstart _ _ _ _)

/-- A start condition on an idle bus. -/
lemma start_leads (hc : c.Idle) (x : Buffer) :
    Leads (twiStart (controller b)) c x ()
      { c with phase := .started, flag := some (b.lag c.events), events := c.events + 1 } x := by
  have hwrite : (controller b).write twiCtr ((c.readCtr ||| twiMstart) &&& ~~~twiIntflag) c =
      { c with phase := .started, flag := some (b.lag c.events), events := c.events + 1 } := by
    obtain ⟨hstart, hstop, hflag, hack⟩ := ctrWord_bits true c.stopBit false c.ack
    have hno : ¬ ctrWord true c.stopBit false c.ack &&& twiIntflag ≠ 0 := of_decide_eq_false hflag
    rw [twiStart_write, Controller.writeCtr, hstart, hstop, hack, if_neg fun h => hno h.1,
      if_pos ⟨hc.phase, rfl⟩, Controller.event, ← hc.start]
  have h := Leads.writel (h := controller b) (c := c) (x := x)
    ((c.readCtr ||| twiMstart) &&& ~~~twiIntflag) twiCtr
  rw [hwrite] at h
  exact (readl_ctr_leads (by rw [hc.flag]; rfl) x).bind h

/-- A repeated start condition, up to its status code. -/
lemma restarted_leads (hb : b.Prompt) (hc : c.Paused) (hphase : c.phase ≠ .idle) {x y : Buffer}
    {rest : Attempt Controller Buffer Unit} {q : Option Unit} {d : Controller}
    (hrest : Leads rest.run { c with phase := .restarted, flag := some 0, events := c.events + 1 } x
      q d y) :
    Leads (lift (twiStart (controller b)) >>= fun _ => lift (twiClearIrqFlag (controller b)) >>=
      fun _ => twiExpect (controller b) twiCheckTimeout 0x10 >>= fun _ => rest).run c x q d y := by
  have hlag := hb c.events
  have hwrite : (controller b).write twiCtr ((c.readCtr ||| twiMstart) &&& ~~~twiIntflag) c =
      { c with startBit := true } :=
    (twiStart_write c).trans (writeCtr_ctrWord _ _ _ fun h => hphase h.1)
  have h := Leads.writel (h := controller b) (c := c) (x := x)
    ((c.readCtr ||| twiMstart) &&& ~~~twiIntflag) twiCtr
  rw [hwrite] at h
  have hon : ({ c with startBit := true } : Controller).goOn b =
      Controller.event b { c with phase := .restarted } := by
    rw [Controller.goOn, hc.stop, if_neg Bool.false_ne_true, if_pos rfl, ← hc.start]
  have hclear := clearIrqFlag_leads (b := b) (c := { c with startBit := true }) hc.flag hon
    (fun n hn => Option.some.inj hn ▸ hlag.1) x
  exact (Leads.lift ((readl_ctr_leads (by rw [hc.flag]; rfl) x).bind h)).attempt
    ((Leads.lift hclear).attempt (expect_attempt (c := { c with
      phase := .restarted, flag := some (b.lag c.events - 2), events := c.events + 1 }) rfl
      (by omega) rfl hrest))

/-- The stop behind a transfer. -/
lemma stop_leads (hc : c.Paused) (x : Buffer) :
    Leads (twiStop (controller b)) c x 0 { c with phase := .idle, flag := none } x := by
  have hidle : ({ c with phase := .idle, flag := none } : Controller).readCtr &&& twiMstop = 0 := by
    have h := (ctrWord_bits c.startBit c.stopBit false c.ack).2.1
    exact not_not.mp (of_decide_eq_false (h.trans hc.stop))
  have hwrite : (controller b).write twiCtr ((c.readCtr ||| twiMstop) &&& ~~~twiIntflag) c =
      { c with stopBit := true } := by
    refine (congrArg (c.writeCtr b) (ctrWord_or_mstop _ _ _ _)).trans
      (writeCtr_ctrWord _ _ _ fun h => ?_)
    rw [hc.start] at h
    exact Bool.false_ne_true h.2
  have h := Leads.writel (h := controller b) (c := c) (x := x)
    ((c.readCtr ||| twiMstop) &&& ~~~twiIntflag) twiCtr
  rw [hwrite] at h
  have hon : ({ c with stopBit := true } : Controller).goOn b =
      { c with phase := .idle, flag := none } := by
    simp only [Controller.goOn, if_true, hc.start, hc.stop]
  have hclear := clearIrqFlag_leads (b := b) (c := { c with stopBit := true }) hc.flag hon
    (fun n hn => nomatch hn) x
  have hpoll {a n : ℕ} {ready : UInt32 → Bool}
      (hready : ready ((controller b).read a { c with phase := .idle, flag := none }).1 = true)
      (hsame : ((controller b).read a { c with phase := .idle, flag := none }).2 =
        { c with phase := .idle, flag := none }) :
      Leads ((controller b).pollUntil a ready (n + 1)) { c with phase := .idle, flag := none } x
        true { c with phase := .idle, flag := none } x := by
    have h := Leads.pollUntil (h := controller b) (x := x) (Nat.succ_pos n)
      (fun i hi => absurd hi (Nat.not_lt_zero i)) hready
    rwa [show (controller b).after a (0 + 1) { c with phase := .idle, flag := none } =
      ((controller b).read a { c with phase := .idle, flag := none }).2 from rfl, hsame] at h
  refine Leads.bind ((readl_ctr_leads (by rw [hc.flag]; rfl) x).bind h) (hclear.bind ?_)
  exact (hpoll (decide_eq_true hidle) rfl).bind <| (hpoll rfl rfl).bind <|
    (hpoll rfl rfl).bind (Leads.pure 0)

end Conditions

/-! ### Transfers -/

/-- What a transfer does on the devices and the buffers, and what it returns. -/
def transferOn (advance : UInt8 → UInt8) (op : TwiRwType) (saddr baddr : UInt8) (data len : ℕ)
    (bank : Bank) (x : Buffer) : ℤ × Bank × Buffer :=
  match bank (busAddress saddr) with
  | none => (-1, bank, x)
  | some regs =>
    match op with
    | .write => (0, Function.update bank (busAddress saddr)
        (some (store advance regs baddr (bufferBytes x data len))), x)
    | .read => (0, bank, fill x data (fetch advance regs baddr len))

section Transfers

variable {b : Behaviour} {c : Controller} {saddr : UInt8} {regs : UInt8 → UInt8}

/-- The start condition, up to its status code. -/
lemma started_leads (hb : b.Prompt) (hc : c.Idle) (x : Buffer) {rest : Attempt Controller Buffer Unit}
    {q : Option Unit} {d : Controller} {y : Buffer}
    (hrest : Leads rest.run { c with phase := .started, flag := some 0, events := c.events + 1 } x
      q d y) :
    Leads (lift (twiStart (controller b)) >>= fun _ => twiExpect (controller b) twiCheckTimeout 0x08
      >>= fun _ => rest).run c x q d y := by
  exact (Leads.lift (start_leads hc x)).attempt (expect_attempt rfl (hb c.events).2 rfl hrest)

/-- The address of a device, after a condition. -/
lemma address_next (hphase : c.phase = .started ∨ c.phase = .restarted) (v : UInt8) :
    ({ c with data := v }.next b).phase = (match c.bank (v >>> 1) with
      | none => .refused (v &&& 1 ≠ 0)
      | some _ => if v &&& 1 = 0 then .pointed (v >>> 1) else .reading (v >>> 1)) ∧
    ({ c with data := v }.next b).bank = c.bank ∧ ({ c with data := v }.next b).ack = c.ack ∧
    ({ c with data := v }.next b).pointer = c.pointer := by
  rcases hphase with hphase | hphase
  all_goals
    cases hdev : c.bank (v >>> 1) with
    | none => simp [Controller.next, Controller.byte, hphase, hdev]
    | some regs => simp [Controller.next, Controller.byte, hphase, hdev]

/-- A device that is not there refuses its address. -/
lemma converse_absent (hb : b.Prompt) (hc : c.Idle) (hdev : c.bank (busAddress saddr) = none)
    (op : TwiRwType) (baddr : UInt8) (data len : ℕ) (x : Buffer) :
    ∃ d : Controller, d.Paused ∧ d.bank = c.bank ∧
      Leads (twiConverse (controller b) op saddr baddr data len).run c x none d x := by
  obtain ⟨⟨hdevice, hdirection⟩, -⟩ := address_byte saddr
  have hpaused : ({ c with phase := .started, flag := some 0, events := c.events + 1 }
      : Controller).Paused := ⟨rfl, hc.start, hc.stop⟩
  obtain ⟨hphase, hbank, -⟩ := address_next (b := b) (c := { c with
    phase := .started, flag := some 0, events := c.events + 1 }) (.inl rfl)
    (saddr.toUInt32 <<< 1 &&& 0xfe).toUInt8
  rw [hdevice, hdirection, hdev] at hphase
  obtain ⟨d, hd⟩ : ∃ d, d = ({ { c with
    phase := .started, flag := some 0, events := c.events + 1 } with
      data := (saddr.toUInt32 <<< 1 &&& 0xfe).toUInt8 } : Controller).next b := ⟨_, rfl⟩
  rw [← hd] at hphase hbank
  refine ⟨d, ?_, hbank, started_leads hb hc x ?_⟩
  · rw [hd]
    exact Controller.Paused.next ⟨rfl, hc.start, hc.stop⟩
  · rw [hd]
    refine hpaused.say_jump hb le_rfl ?_
    rw [← hd, hphase]
    exact show (0x20 : UInt32) ≠ 0x18 by decide

/-- One that is there is pointed to one of its registers, and what follows goes on from there. -/
lemma pointed_leads (hb : b.Prompt) (hc : c.Idle) (hdev : c.bank (busAddress saddr) = some regs)
    (baddr : UInt8) (x : Buffer) {rest : Attempt Controller Buffer Unit} {q : Option Unit}
    {y : Buffer} {P : Controller → Prop}
    (hrest : ∀ c' : Controller, c'.Paused → c'.phase = .written (busAddress saddr) →
      c'.pointer = baddr → c'.bank = c.bank → c'.ack = c.ack → ∃ d, P d ∧ Leads rest.run c' x q d y) :
    ∃ d, P d ∧ Leads (lift (twiStart (controller b)) >>= fun _ =>
      twiExpect (controller b) twiCheckTimeout 0x08 >>= fun _ =>
      lift (twiSendByte (controller b) (saddr.toUInt32 <<< 1 &&& 0xfe)) >>= fun _ =>
      twiExpect (controller b) twiCheckTimeout 0x18 >>= fun _ =>
      lift (twiSendByte (controller b) baddr.toUInt32) >>= fun _ =>
      twiExpect (controller b) twiCheckTimeout 0x28 >>= fun _ => rest).run c x q d y := by
  obtain ⟨⟨hdevice, hdirection⟩, -⟩ := address_byte saddr
  have hstarted : ({ c with phase := .started, flag := some 0, events := c.events + 1 }
      : Controller).Paused := ⟨rfl, hc.start, hc.stop⟩
  obtain ⟨hphase, hbank, hack, -⟩ := address_next (b := b) (c := { c with
    phase := .started, flag := some 0, events := c.events + 1 }) (.inl rfl)
    (saddr.toUInt32 <<< 1 &&& 0xfe).toUInt8
  rw [hdevice, hdirection, hdev] at hphase
  obtain ⟨c', hc'⟩ : ∃ c', c' = ({ { c with
    phase := .started, flag := some 0, events := c.events + 1 } with
      data := (saddr.toUInt32 <<< 1 &&& 0xfe).toUInt8 } : Controller).next b := ⟨_, rfl⟩
  rw [← hc'] at hphase hbank hack
  have hpaused : c'.Paused := by
    rw [hc']
    exact Controller.Paused.next ⟨rfl, hc.start, hc.stop⟩
  have hnext : { c' with data := baddr.toUInt32.toUInt8 }.next b = { c' with
      data := baddr, phase := .written (busAddress saddr), pointer := baddr, flag := some 0
      events := c'.events + 1 } := by
    simp only [if_true] at hphase
    simp [Controller.next, Controller.byte, hphase]
  obtain ⟨d, hd, hrun⟩ := hrest _ (Controller.Paused.next (b := b)
    (c := { c' with data := baddr.toUInt32.toUInt8 }) ⟨hpaused.flag, hpaused.start, hpaused.stop⟩)
    (by rw [hnext]) (by rw [hnext]) (by rw [hnext]; exact hbank) (by rw [hnext]; exact hack)
  refine ⟨d, hd, started_leads hb hc x (hstarted.say hb le_rfl ?_ ?_)⟩
  · rw [← hc', hphase]
    rfl
  · rw [← hc']
    refine hpaused.say hb le_rfl ?_ hrun
    rw [hnext]
    rfl

/-- The bytes go to the register that the device is pointed to, and behind it, or come from
there. -/
lemma converse_present (hb : b.Prompt) (hc : c.Idle) (hack : c.ack = true)
    (hdev : c.bank (busAddress saddr) = some regs) (op : TwiRwType) (baddr : UInt8)
    (data len : ℕ) (x : Buffer) :
    ∃ d : Controller, (d.Paused ∧
        d.bank = (transferOn b.advance op saddr baddr data len c.bank x).2.1) ∧
      Leads (twiConverse (controller b) op saddr baddr data len).run c x (some ()) d
        (transferOn b.advance op saddr baddr data len c.bank x).2.2 := by
  cases op with
  | write =>
    refine pointed_leads hb hc hdev baddr x fun c' hc' hphase hpointer hbank _ => ?_
    obtain ⟨d, hd, hdbank, hrun⟩ := sendData_leads hb x data len hc' hphase
      (by rw [hbank]; exact hdev)
    rw [hpointer, hbank] at hdbank
    rw [transferOn, hdev]
    exact ⟨d, ⟨hd, hdbank⟩, hrun⟩
  | read =>
    refine pointed_leads hb hc hdev baddr x fun c' hc' hphase hpointer hbank hack' => ?_
    obtain ⟨-, hdevice, hdirection⟩ := address_byte saddr
    have hstarted : ({ c' with phase := .restarted, flag := some 0, events := c'.events + 1 }
        : Controller).Paused := ⟨rfl, hc'.start, hc'.stop⟩
    obtain ⟨hnext, hnbank, hnack, hnpointer⟩ := address_next (b := b) (c := { c' with
      phase := .restarted, flag := some 0, events := c'.events + 1 }) (.inr rfl)
      (saddr.toUInt32 <<< 1 ||| 1).toUInt8
    obtain ⟨e, he⟩ : ∃ e, e = ({ { c' with
      phase := .restarted, flag := some 0, events := c'.events + 1 } with
        data := (saddr.toUInt32 <<< 1 ||| 1).toUInt8 } : Controller).next b := ⟨_, rfl⟩
    rw [← he, hdevice, hbank, hdev] at hnext
    rw [← he] at hnbank hnack hnpointer
    have hreading : e.phase = .reading (busAddress saddr) := hnext.trans (if_neg hdirection)
    have hpaused : e.Paused := by
      rw [he]
      exact Controller.Paused.next ⟨rfl, hc'.start, hc'.stop⟩
    obtain ⟨d, hd, hdbank, hrun⟩ := getData_leads hb data len x hpaused
      (hnack.trans (hack'.trans hack)) (.inl hreading) (by rw [hnbank, hbank]; exact hdev)
    rw [hnpointer, hpointer] at hrun
    rw [transferOn, hdev]
    refine ⟨d, ⟨hd, hdbank.trans (hnbank.trans hbank)⟩, restarted_leads hb hc'
      (fun h => Phase.noConfusion (hphase.symm.trans h)) (hstarted.say hb le_rfl ?_ ?_)⟩
    · rw [← he, hreading]
      rfl
    · rw [← he]
      exact hrun

/-- A transfer, on an idle controller: it does on the devices and the buffers what it is for, and
leaves the controller idle. -/
lemma byteRw_leads (hb : b.Prompt) (hc : c.Idle) (op : TwiRwType) (saddr baddr : UInt8) (data : ℕ)
    {len : UInt32} (hlen : ¬ 4 < len) (x : Buffer) :
    ∃ d : Controller, d.Idle ∧
      d.bank = (transferOn b.advance op saddr baddr data len.toNat c.bank x).2.1 ∧
      Leads (twiByteRw (controller b) false op saddr baddr data len) c x
        (transferOn b.advance op saddr baddr data len.toNat c.bank x).1 d
        (transferOn b.advance op saddr baddr data len.toNat c.bank x).2.2 := by
  have hidle : ({ c with ack := true } : Controller).Idle := ⟨hc.phase, hc.flag, hc.start, hc.stop⟩
  have henable : Leads (twiEnableAck (controller b)) c x () { c with ack := true } x := by
    have hwrite : (controller b).write twiCtr ((c.readCtr ||| twiAack) &&& ~~~twiIntflag) c =
        { c with ack := true } := by
      refine (congrArg (c.writeCtr b) (ctrWord_or_aack _ _ _ _)).trans
        (writeCtr_ctrWord _ _ _ fun h => ?_)
      rw [hc.start] at h
      exact Bool.false_ne_true h.2
    have h := Leads.writel (h := controller b) (c := c) (x := x)
      ((c.readCtr ||| twiAack) &&& ~~~twiIntflag) twiCtr
    rw [hwrite] at h
    have hread := readl_ctr_leads (b := b) (c := { c with ack := true }) (by rw [hc.flag]; rfl) x
    exact (readl_ctr_leads (by rw [hc.flag]; rfl) x).bind
      (h.bind (hread.bind (hread.bind (Leads.pure ()))))
  have hbus {q : Option Unit} {d : Controller} {y : Buffer}
      (hconverse : Leads (twiConverse (controller b) op saddr baddr data len.toNat).run
        { c with ack := true } x q d y) :
      Leads (twiTransfer (controller b) op saddr baddr data len.toNat).run
        { c with ack := true } x q d y := by
    have hcode : (controller b).read twiStr { c with ack := true } =
        (0xf8, { c with ack := true }) := by
      refine congrArg (·, { c with ack := true }) (if_neg fun hset => ?_)
      exact Option.some_ne_none 0 (hset.symm.trans hc.flag)
    have hread := Leads.readl (h := controller b) (c := { c with ack := true }) (x := x) twiStr
    rw [hcode] at hread
    have hcheck := orStopOut_leads ((0xf8 : UInt32) &&& 0xff = 0xf8) { c with ack := true } x
    rw [if_pos (by decide)] at hcheck
    exact (Leads.lift hread).attempt (hcheck.attempt hconverse)
  have hrest {q : Option Unit} {d : Controller} {y : Buffer} (hd : d.Paused)
      (htransfer : Leads (twiTransfer (controller b) op saddr baddr data len.toNat).run
        { c with ack := true } x q d y) :
      Leads (twiByteRw (controller b) false op saddr baddr data len) c x
        (if q.isSome then 0 else -1) { d with phase := .idle, flag := none } y := by
    rw [twiByteRw, if_neg Bool.false_ne_true, if_neg hlen]
    exact henable.bind ((Leads.writel 0 twiEfr).bind (htransfer.bind
      ((stop_leads hd y).bind (Leads.pure _))))
  cases hdev : c.bank (busAddress saddr) with
  | none =>
    obtain ⟨d, hd, hbank, hrun⟩ := converse_absent hb hidle hdev op baddr data len.toNat x
    rw [transferOn, hdev]
    exact ⟨{ d with phase := .idle, flag := none }, ⟨rfl, rfl, hd.start, hd.stop⟩, hbank,
      hrest hd (hbus hrun)⟩
  | some regs =>
    obtain ⟨d, ⟨hd, hbank⟩, hrun⟩ := converse_present hb hidle rfl hdev op baddr data len.toNat x
    refine ⟨{ d with phase := .idle, flag := none }, ⟨rfl, rfl, hd.start, hd.stop⟩, hbank, ?_⟩
    have hret : (transferOn b.advance op saddr baddr data len.toNat c.bank x).1 = 0 := by
      rw [transferOn, hdev]
      cases op with
      | write => rfl
      | read => rfl
    rw [hret]
    exact hrest hd (hbus hrun)

end Transfers

/-! ### Calls -/

def ccuClkClkchgReq : UInt32 := 0
def ccuClkClkchgDone : UInt32 := 1

def twiClockFreq : UInt32 := 200 * 1000

/-- `twi_clkchangecb`, with the new frequency of the source clock: what it returns, and the lock. -/
def twiClkchangecb {σ : Type} (h : Hardware σ) (fuel : ℕ) (command srcClk : UInt32) (lock : Bool) :
    Driver σ Buffer (ℤ × Bool) :=
  if command = ccuClkClkchgReq then pure (0, true)
  else if command = ccuClkClkchgDone then do
    let (clkM, clkN) ← (fun s => (outerLoop srcClk twiClockFreq fuel fuel 0 0 1).map (·, s) :
      Driver σ Buffer (UInt8 × UInt8))
    h.writel (clkM.toUInt32 <<< 3 ||| clkN.toUInt32) twiCkr
    pure (0, false)
  else pure (-eFail, lock)

/-- What the rest of the firmware calls; a transfer names the place of its data in the buffers. -/
inductive Call
  | read (devaddr : UInt32) (addr : List UInt8) (data : ℕ)
  | write (devaddr : UInt32) (addr : List UInt8) (data : ℕ)
  | clkchange (command srcClk : UInt32)

/-- A call, with the lock before and behind it. -/
def Call.run {σ : Type} (h : Hardware σ) (fuel : ℕ) (lock : Bool) : Call → Driver σ Buffer (ℤ × Bool)
  | read devaddr addr data => do pure (← twiRead h lock devaddr addr data, lock)
  | write devaddr addr data => do pure (← twiWrite h lock devaddr addr data, lock)
  | clkchange command srcClk => twiClkchangecb h fuel command srcClk lock

def runCalls {σ : Type} (h : Hardware σ) (fuel : ℕ) :
    Bool → List Call → Driver σ Buffer (List ℤ × Bool)
  | lock, [] => pure ([], lock)
  | lock, call :: calls => do
      let (r, lock) ← call.run h fuel lock
      let (rs, lock) ← runCalls h fuel lock calls
      pure (r :: rs, lock)

/-- The devices as arrays of registers, the buffers, and whether the bus is locked. -/
structure Bus where
  locked : Bool
  bank : Bank
  buf : Buffer

/-- The registers, with bytes stored at the addresses in turn. -/
def storeAt (regs : UInt8 → UInt8) (l : List (UInt8 × UInt8)) : UInt8 → UInt8 :=
  l.foldl (fun regs p => Function.update regs p.1 p.2) regs

namespace Bus

/-- A transfer of at least one byte, where `f` is what it does on a device that is there. -/
def access (devaddr : UInt32) (addr : List UInt8) (f : (UInt8 → UInt8) → Bus) (s : Bus) : ℤ × Bus :=
  if addr = [] then (0, s)
  else if s.locked then (-eAcces, s)
  else
    match s.bank (busAddress devaddr.toUInt8) with
    | none => (-1, s)
    | some regs => (0, f regs)

/-- What a call is for. -/
def call (s : Bus) : Call → ℤ × Bus
  | .read devaddr addr data =>
      s.access devaddr addr fun regs => { s with buf := fill s.buf data (addr.map regs) }
  | .write devaddr addr data =>
      s.access devaddr addr fun regs => { s with
        bank := Function.update s.bank (busAddress devaddr.toUInt8)
          (some (storeAt regs (addr.zip (bufferBytes s.buf data addr.length)))) }
  | .clkchange command _ =>
      if command = ccuClkClkchgReq then (0, { s with locked := true })
      else if command = ccuClkClkchgDone then (0, { s with locked := false })
      else (-eFail, s)

def calls : Bus → List Call → List ℤ × Bus
  | s, [] => ([], s)
  | s, c :: l => ((s.call c).1 :: ((s.call c).2.calls l).1, ((s.call c).2.calls l).2)

end Bus

section Calls

variable {b : Behaviour} {c : Controller} {regs : UInt8 → UInt8}

lemma lor_refused : ∀ lock : Bool,
    Int.lor (if lock then -eAcces else -1) (if lock then -eAcces else -1) =
      (if lock then -eAcces else -1) ∧
    Int.lor 0 (if lock then -eAcces else -1) = if lock then -eAcces else -1 := by decide +kernel

/-- Calls of `twi_byte_rw` that all return the same and leave everything as it is. -/
lemma each_refused {lock : Bool} {op : TwiRwType} {dev : UInt8} {bank : Bank} {r : ℤ}
    (hr : Int.lor r r = r)
    (hone : ∀ c : Controller, c.Idle → c.bank = bank → ∀ reg data x, ∃ d : Controller, d.Idle ∧
      d.bank = bank ∧ Leads (twiByteRw (controller b) lock op dev reg data 1) c x r d x)
    (addr : List UInt8) (data : ℕ) (x : Buffer) {ret : ℤ} (hret : Int.lor ret r = r)
    (hc : c.Idle) (hbank : c.bank = bank) :
    ∃ d : Controller, d.Idle ∧ d.bank = bank ∧
      Leads (twiEach (controller b) lock op dev addr data ret) c x (if addr = [] then ret else r)
        d x := by
  induction addr generalizing c data ret with
  | nil => exact ⟨c, hc, hbank, Leads.pure ret⟩
  | cons reg addr ih =>
    obtain ⟨d, hd, hdbank, hfirst⟩ := hone c hc hbank reg data x
    obtain ⟨e, he, hebank, hrest⟩ := ih (data + 1) hr hd hdbank
    refine ⟨e, he, hebank, hfirst.bind ?_⟩
    rw [hret, if_neg (List.cons_ne_nil reg addr)]
    rwa [ite_self] at hrest

/-- The loop of `twi_read`, on a device that is there. -/
lemma each_read (hb : b.Prompt) {dev : UInt8} (addr : List UInt8) (data : ℕ) (x : Buffer)
    (hc : c.Idle) (hdev : c.bank (busAddress dev) = some regs) :
    ∃ d : Controller, d.Idle ∧ d.bank = c.bank ∧
      Leads (twiEach (controller b) false .read dev addr data 0) c x 0 d
        (fill x data (addr.map regs)) := by
  induction addr generalizing c data x with
  | nil => exact ⟨c, hc, rfl, Leads.pure 0⟩
  | cons reg addr ih =>
    obtain ⟨d, hd, hbank, hfirst⟩ := byteRw_leads hb hc .read dev reg data
      (show ¬ (4 : UInt32) < 1 by decide) x
    rw [transferOn, hdev] at hbank hfirst
    obtain ⟨e, he, hebank, hrest⟩ := ih (data + 1) (Function.update x data (regs reg)) hd
      (by rw [hbank]; exact hdev)
    exact ⟨e, he, hebank.trans hbank, hfirst.bind hrest⟩

/-- The loop of `twi_write`. -/
lemma each_write (hb : b.Prompt) {dev : UInt8} (addr : List UInt8) (data : ℕ) (x : Buffer)
    (hc : c.Idle) (hdev : c.bank (busAddress dev) = some regs) :
    ∃ d : Controller, d.Idle ∧
      d.bank = Function.update c.bank (busAddress dev)
        (some (storeAt regs (addr.zip (bufferBytes x data addr.length)))) ∧
      Leads (twiEach (controller b) false .write dev addr data 0) c x 0 d x := by
  induction addr generalizing c data regs with
  | nil =>
    refine ⟨c, hc, ?_, Leads.pure 0⟩
    rw [List.zip_nil_left, storeAt, List.foldl_nil, ← hdev, Function.update_eq_self]
  | cons reg addr ih =>
    obtain ⟨d, hd, hbank, hfirst⟩ := byteRw_leads hb hc .write dev reg data
      (show ¬ (4 : UInt32) < 1 by decide) x
    rw [transferOn, hdev] at hbank hfirst
    have hstore : d.bank = Function.update c.bank (busAddress dev)
        (some (Function.update regs reg (x data))) := hbank
    obtain ⟨e, he, hebank, hrest⟩ := ih (data + 1) hd
      (show _ = some (Function.update regs reg (x data)) by rw [hstore]; exact Function.update_self ..)
    refine ⟨e, he, ?_, hfirst.bind hrest⟩
    rw [hebank, hstore, Function.update_idem, List.length_cons, bufferBytes_succ, List.zip_cons_cons]
    rfl

/-- A call of `twi_read` or `twi_write` that is refused, because the bus is locked or the device
is not there. -/
lemma each_access_refused (hb : b.Prompt) {lock : Bool} {dev : UInt8} (op : TwiRwType)
    (hc : c.Idle) (hrefused : lock = true ∨ c.bank (busAddress dev) = none) (addr : List UInt8)
    (data : ℕ) (x : Buffer) :
    ∃ d : Controller, d.Idle ∧ d.bank = c.bank ∧
      Leads (twiEach (controller b) lock op dev addr data 0) c x
        (if addr = [] then 0 else if lock then -eAcces else -1) d x := by
  obtain ⟨hself, hzero⟩ := lor_refused lock
  cases lock with
  | true =>
    refine each_refused hself (fun c' hc' hbank reg data x => ?_) addr data x hzero hc rfl
    exact ⟨c', hc', hbank, Leads.pure (-eAcces)⟩
  | false =>
    have hdev := hrefused.resolve_left Bool.false_ne_true
    refine each_refused hself (fun c' hc' hbank reg data x => ?_) addr data x hzero hc rfl
    obtain ⟨d, hd, hdbank, hrun⟩ := byteRw_leads hb hc' op dev reg data
      (show ¬ (4 : UInt32) < 1 by decide) x
    rw [transferOn, hbank, hdev] at hdbank hrun
    exact ⟨d, hd, hdbank, hrun⟩

/-- A call of `twi_read` or `twi_write`, from what its loop does on a device that is there. -/
lemma access_leads (hb : b.Prompt) (lock : Bool) (op : TwiRwType) (devaddr : UInt32)
    (addr : List UInt8) (data : ℕ) (x : Buffer) (hc : c.Idle) {f : (UInt8 → UInt8) → Bus}
    (hf : ∀ regs, lock = false → c.bank (busAddress devaddr.toUInt8) = some regs →
      (f regs).locked = false ∧ (addr = [] → f regs = ⟨false, c.bank, x⟩) ∧
      ∃ d : Controller, d.Idle ∧ d.bank = (f regs).bank ∧
        Leads (twiEach (controller b) false op devaddr.toUInt8 addr data 0) c x 0 d (f regs).buf) :
    ∃ d : Controller, d.Idle ∧
      d.bank = (Bus.access devaddr addr f ⟨lock, c.bank, x⟩).2.bank ∧
      lock = (Bus.access devaddr addr f ⟨lock, c.bank, x⟩).2.locked ∧
      Leads (twiEach (controller b) lock op devaddr.toUInt8 addr data 0) c x
        (Bus.access devaddr addr f ⟨lock, c.bank, x⟩).1 d
        (Bus.access devaddr addr f ⟨lock, c.bank, x⟩).2.buf := by
  by_cases hrefused : lock = true ∨ c.bank (busAddress devaddr.toUInt8) = none
  · have hcall : Bus.access devaddr addr f ⟨lock, c.bank, x⟩ =
        (if addr = [] then 0 else if lock then -eAcces else -1, ⟨lock, c.bank, x⟩) := by
      rw [Bus.access]
      by_cases haddr : addr = []
      · rw [if_pos haddr, if_pos haddr]
      · rw [if_neg haddr, if_neg haddr]
        cases lock with
        | true => rfl
        | false => simp only [hrefused.resolve_left Bool.false_ne_true, Bool.false_eq_true, if_false]
    rw [hcall]
    obtain ⟨d, hd, hbank, hrun⟩ := each_access_refused hb op hc hrefused addr data x
    exact ⟨d, hd, hbank, rfl, hrun⟩
  · rw [not_or] at hrefused
    obtain ⟨hlock, hdev⟩ := hrefused
    obtain rfl := Bool.eq_false_of_not_eq_true hlock
    obtain ⟨regs, hregs⟩ := Option.ne_none_iff_exists'.mp hdev
    obtain ⟨hunlocked, hempty, d, hd, hbank, hrun⟩ := hf regs rfl hregs
    have hcall : Bus.access devaddr addr f ⟨false, c.bank, x⟩ = (0, f regs) := by
      rw [Bus.access]
      by_cases haddr : addr = []
      · rw [if_pos haddr, hempty haddr]
      · rw [if_neg haddr, if_neg Bool.false_ne_true]
        simp only [hregs]
    rw [hcall]
    exact ⟨d, hd, hbank, hunlocked.symm, hrun⟩

/-- One call does what it is for. -/
lemma call_leads (hb : b.Prompt) {fuel : ℕ} (hfuel : 17 ≤ fuel) (lock : Bool) (call : Call)
    (x : Buffer) (hc : c.Idle) :
    ∃ d : Controller, d.Idle ∧ d.bank = (Bus.call ⟨lock, c.bank, x⟩ call).2.bank ∧
      Leads (call.run (controller b) fuel lock) c x
        ((Bus.call ⟨lock, c.bank, x⟩ call).1, (Bus.call ⟨lock, c.bank, x⟩ call).2.locked) d
        (Bus.call ⟨lock, c.bank, x⟩ call).2.buf := by
  cases call with
  | read devaddr addr data =>
    obtain ⟨d, hd, hbank, hlock, hrun⟩ := access_leads hb lock .read devaddr addr data x hc
      (f := fun regs => { (⟨lock, c.bank, x⟩ : Bus) with buf := fill x data (addr.map regs) })
      fun regs hlock hdev => by
        obtain ⟨d, hd, hbank, hrun⟩ := each_read hb addr data x hc hdev
        refine ⟨hlock, fun hnil => ?_, d, hd, hbank, hrun⟩
        rw [hnil, hlock]
        rfl
    exact ⟨d, hd, hbank, hrun.bind (by rw [Bus.call, ← hlock]; exact Leads.pure _)⟩
  | write devaddr addr data =>
    obtain ⟨d, hd, hbank, hlock, hrun⟩ := access_leads hb lock .write devaddr addr data x hc
      (f := fun regs => { (⟨lock, c.bank, x⟩ : Bus) with
        bank := Function.update c.bank (busAddress devaddr.toUInt8)
          (some (storeAt regs (addr.zip (bufferBytes x data addr.length)))) })
      fun regs hlock hdev => by
        obtain ⟨d, hd, hbank, hrun⟩ := each_write hb addr data x hc hdev
        refine ⟨hlock, fun hnil => ?_, d, hd, hbank, hrun⟩
        rw [hnil, hlock, List.zip_nil_left, storeAt, List.foldl_nil, ← hdev,
          Function.update_eq_self]
    exact ⟨d, hd, hbank, hrun.bind (by rw [Bus.call, ← hlock]; exact Leads.pure _)⟩
  | clkchange command srcClk =>
    rw [Call.run, twiClkchangecb, Bus.call]
    split
    · exact ⟨c, hc, rfl, Leads.pure _⟩
    split
    · obtain ⟨m, n, hsearch⟩ : ∃ m n, outerLoop srcClk twiClockFreq fuel fuel 0 0 1 = some (m, n) := by
        rcases outerLoop_spec srcClk twiClockFreq hfuel with ⟨k, -, -, hfound⟩ | ⟨-, hlast⟩
        · exact ⟨_, _, hfound⟩
        · exact ⟨_, _, hlast⟩
      have hdivider : Leads (fun s => (outerLoop srcClk twiClockFreq fuel fuel 0 0 1).map (·, s) :
          Driver Controller Buffer (UInt8 × UInt8)) c x (m, n) c x := by
        intro l
        exact ⟨l, by rw [hsearch]; rfl⟩
      exact ⟨c, hc, rfl, hdivider.bind ((Leads.writel _ twiCkr).bind (Leads.pure _))⟩
    · exact ⟨c, hc, rfl, Leads.pure _⟩

/-- **Refinement**: whatever is called in whatever order, the controller is idle again behind each
call, and the calls do on the devices what they would do on arrays of registers: they return the
same, and leave the same registers, buffers and lock behind. While the lock is held they do
nothing. -/
theorem transfers_refine (hb : b.Prompt) {fuel : ℕ} (hfuel : 17 ≤ fuel) (calls : List Call)
    (lock : Bool) (x : Buffer) (l : List Access) (hc : c.Idle) :
    ∃ (d : Controller) (l' : List Access), d.Idle ∧
      runCalls (controller b) fuel lock calls ⟨c, l, x⟩ =
        some (((Bus.calls ⟨lock, c.bank, x⟩ calls).1, (Bus.calls ⟨lock, c.bank, x⟩ calls).2.locked),
          ⟨d, l', (Bus.calls ⟨lock, c.bank, x⟩ calls).2.buf⟩) ∧
      d.bank = (Bus.calls ⟨lock, c.bank, x⟩ calls).2.bank := by
  have hrun : ∃ d : Controller, d.Idle ∧ d.bank = (Bus.calls ⟨lock, c.bank, x⟩ calls).2.bank ∧
      Leads (runCalls (controller b) fuel lock calls) c x
        ((Bus.calls ⟨lock, c.bank, x⟩ calls).1, (Bus.calls ⟨lock, c.bank, x⟩ calls).2.locked) d
        (Bus.calls ⟨lock, c.bank, x⟩ calls).2.buf := by
    induction calls generalizing c lock x with
    | nil => exact ⟨c, hc, rfl, Leads.pure _⟩
    | cons call calls ih =>
      obtain ⟨d, hd, hbank, hfirst⟩ := call_leads hb hfuel lock call x hc
      obtain ⟨e, he, hebank, hrest⟩ := ih (Bus.call ⟨lock, c.bank, x⟩ call).2.locked
        (Bus.call ⟨lock, c.bank, x⟩ call).2.buf hd
      rw [hbank] at hebank hrest
      exact ⟨e, he, hebank, hfirst.bind (hrest.bind (Leads.pure _))⟩
  obtain ⟨d, hd, hbank, hleads⟩ := hrun
  obtain ⟨l', hl'⟩ := hleads l
  exact ⟨d, l', hd, hl', hbank⟩

end Calls

/-- Events that take three reads, and devices that count their registers up. -/
def threeReads : Behaviour := ⟨fun _ => 3, (· + 1)⟩

/-- An idle controller with one device, whose registers are all zero. -/
def oneDevice (dev : UInt8) : Controller :=
  ⟨.idle, none, false, false, false, 0, 0, Function.update (fun _ => none) dev (some fun _ => 0), 0⟩

/-- A byte is written and read back, before, during and after a change of the clock; then one is
asked for from a device that is not there. -/
def readBackCalls : List Call :=
  [.write 0x36 [0x10] 0, .read 0x36 [0x10] 1, .clkchange 0 0, .read 0x36 [0x10] 2,
    .clkchange 1 24000000, .read 0x36 [0x11, 0x10] 3, .read 0x34 [0x00] 2]

theorem transfers_refine_readBack :
    ∃ (d : Controller) (l : List Access), d.Idle ∧
      runCalls (controller threeReads) 17 false readBackCalls ⟨oneDevice 0x36, [], fun _ => 7⟩ =
        some (((Bus.calls ⟨false, (oneDevice 0x36).bank, fun _ => 7⟩ readBackCalls).1, false),
          ⟨d, l, (Bus.calls ⟨false, (oneDevice 0x36).bank, fun _ => 7⟩ readBackCalls).2.buf⟩) ∧
      d.bank = (Bus.calls ⟨false, (oneDevice 0x36).bank, fun _ => 7⟩ readBackCalls).2.bank :=
  transfers_refine (b := threeReads) (fun _ => ⟨show 2 ≤ 3 by decide, show 3 < 0x07ff by decide⟩)
    le_rfl readBackCalls false (fun _ => 7) [] ⟨rfl, rfl, rfl, rfl⟩

/-- A hardware whose interrupt flag shows in every register, whatever is written. -/
def latched : Hardware Unit := ⟨fun _ s => (twiIntflag, s), fun _ _ s => s⟩

end A733Boot.Ar100s.Twi
