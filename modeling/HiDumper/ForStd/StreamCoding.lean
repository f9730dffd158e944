import Mathlib.Data.List.Basic
import Mathlib.Data.List.TakeDrop

/-!
# Encoders that work in pieces

A stream encoder takes its input in pieces and hands its output out in pieces of limited size.
Its caller gives it the next piece when the one before has been taken, says with the last one
that the input ends, and from then on only makes space, until a call leaves space over. `Fed`
is the state of a stream that has been used so, and `Lawful` what the encoder promises to such
a caller: that a decoder gets back what was given to it.

## Key results

- `Encodes.decodesTo`: what a whole input is encoded to decodes to the input
- `buffered_lawful`: an encoder of whole inputs, made to work in pieces
-/

/-- An encoder that works in pieces. A call gets input, the space for output and whether the
    input ends with this piece; it gives what it has not taken and the output, or fails. -/
structure StreamEncoder (α β : Type) where
  State : Type
  start : State
  call : State → List α → Nat → Bool → Option (State × List α × List β)

namespace StreamEncoder

variable {α β : Type} {enc : StreamEncoder α β} {decode : List β → Option (List α)}

/-- A stream in use: whether its input has ended, the input it has still to take, all the
    input and all the output. -/
inductive Fed (enc : StreamEncoder α β) : Bool → enc.State → List α → List α → List β → Prop where
  | start : Fed enc false enc.start [] [] []
  | give {s : enc.State} {inp : List α} {out : List β} (h : Fed enc false s [] inp out)
      (piece : List α) (finish : Bool) : Fed enc finish s piece (inp ++ piece) out
  | call {finish : Bool} {s s' : enc.State} {piece rest inp : List α} {out more : List β}
      {space : Nat} (h : Fed enc finish s piece inp out)
      (hcall : enc.call s piece space finish = some (s', rest, more))
      (hfinish : finish → more.length = space) : Fed enc finish s' rest inp (out ++ more)

/-- What an encoder promises to a caller that uses it so. -/
structure Lawful (enc : StreamEncoder α β) (decode : List β → Option (List α)) : Prop where
  length_le : ∀ {finish s s' piece rest inp out more space}, Fed enc finish s piece inp out →
    enc.call s piece space finish = some (s', rest, more) → more.length ≤ space
  /-- A call that leaves space over has taken its input. -/
  taken : ∀ {finish s s' piece rest inp out more space}, Fed enc finish s piece inp out →
    enc.call s piece space finish = some (s', rest, more) → more.length < space → rest = []
  /-- When the input has ended, a call that leaves space over completes the output. -/
  complete : ∀ {s s' piece rest inp out more space}, Fed enc true s piece inp out →
    enc.call s piece space true = some (s', rest, more) → more.length < space →
    ∀ further, decode (out ++ more ++ further) = (decode further).map (inp ++ ·)

/-- The outputs of the calls that are made until one of them leaves space over. -/
inductive Drains (enc : StreamEncoder α β) (space : Nat) (finish : Bool) :
    enc.State → List α → enc.State → List (List β) → Prop where
  | last {s s' : enc.State} {piece rest : List α} {more : List β}
      (hcall : enc.call s piece space finish = some (s', rest, more)) (hspace : more.length ≠ space) :
      Drains enc space finish s piece s' [more]
  | next {s s₁ s' : enc.State} {piece rest : List α} {more : List β} {outs : List (List β)}
      (hcall : enc.call s piece space finish = some (s₁, rest, more)) (hspace : more.length = space)
      (h : Drains enc space finish s₁ rest s' outs) :
      Drains enc space finish s piece s' (more :: outs)

/-- The outputs for an input that is given in pieces of one size, a shorter one at the end. -/
inductive Encodes (enc : StreamEncoder α β) (size space : Nat) :
    enc.State → List α → List (List β) → Prop where
  | last {s s' : enc.State} {inp : List α} {outs : List (List β)} (hlast : inp.length < size)
      (h : Drains enc space true s inp s' outs) : Encodes enc size space s inp outs
  | piece {s s' : enc.State} {inp : List α} {outs outs' : List (List β)}
      (hmore : ¬inp.length < size) (h : Drains enc space false s (inp.take size) s' outs)
      (hrest : Encodes enc size space s' (inp.drop size) outs') :
      Encodes enc size space s inp (outs ++ outs')

/-- A piece takes at least one call. -/
theorem Drains.ne_nil {space : Nat} {finish : Bool} {s s' : enc.State} {piece : List α}
    {outs : List (List β)} (h : Drains enc space finish s piece s' outs) : outs ≠ [] := by
  cases h <;> simp

/-- Even no input takes at least one call. -/
theorem Encodes.ne_nil {size space : Nat} {s : enc.State} {inp : List α} {outs : List (List β)}
    (h : Encodes enc size space s inp outs) : outs ≠ [] := by
  cases h with
  | last _ h => exact h.ne_nil
  | piece _ h => simp [h.ne_nil]

/-- A stream that decodes to `inp`, whatever comes behind it. -/
def DecodesTo (decode : List β → Option (List α)) (stream : List β) (inp : List α) : Prop :=
  ∀ further, decode (stream ++ further) = (decode further).map (inp ++ ·)

theorem DecodesTo.nil : DecodesTo decode [] [] := by
  intro further
  simp

/-- Streams one after the other decode to what each of them decodes to. -/
theorem DecodesTo.append {stream stream' : List β} {inp inp' : List α}
    (h : DecodesTo decode stream inp) (h' : DecodesTo decode stream' inp') :
    DecodesTo decode (stream ++ stream') (inp ++ inp') := by
  intro further
  rw [List.append_assoc, h, h', Option.map_map]
  congr 1
  funext rest
  simp

/-- Where more input follows, a stream has taken its piece when a call leaves space over. -/
theorem Drains.fed (h : enc.Lawful decode) {space : Nat} {s s' : enc.State} {piece inp : List α}
    {out : List β} {outs : List (List β)} (hdrains : Drains enc space false s piece s' outs)
    (hfed : Fed enc false s piece inp out) : Fed enc false s' [] inp (out ++ outs.flatten) := by
  induction hdrains generalizing out with
  | last hcall hspace =>
    obtain rfl := h.taken hfed hcall (Nat.lt_of_le_of_ne (h.length_le hfed hcall) hspace)
    rw [List.flatten_singleton]
    exact hfed.call hcall Bool.noConfusion
  | next hcall hspace _ ih =>
    rw [List.flatten_cons, ← List.append_assoc]
    exact ih (hfed.call hcall fun _ => hspace)

/-- Where the input has ended, the output is complete then. -/
theorem Drains.decodesTo (h : enc.Lawful decode) {space : Nat} {s s' : enc.State}
    {piece inp : List α} {out : List β} {outs : List (List β)}
    (hdrains : Drains enc space true s piece s' outs) (hfed : Fed enc true s piece inp out) :
    DecodesTo decode (out ++ outs.flatten) inp := by
  induction hdrains generalizing out with
  | last hcall hspace =>
    rw [List.flatten_singleton]
    exact h.complete hfed hcall (Nat.lt_of_le_of_ne (h.length_le hfed hcall) hspace)
  | next hcall hspace _ ih =>
    rw [List.flatten_cons, ← List.append_assoc]
    exact ih (hfed.call hcall fun _ => hspace)

/-- The outputs for the last input complete the stream of everything that has been fed in. -/
theorem Encodes.decodesTo_append (h : enc.Lawful decode) {size space : Nat} {s : enc.State}
    {inp before : List α} {out : List β} {outs : List (List β)}
    (hencodes : Encodes enc size space s inp outs) (hfed : Fed enc false s [] before out) :
    DecodesTo decode (out ++ outs.flatten) (before ++ inp) := by
  induction hencodes generalizing before out with
  | last _ hdrains => exact hdrains.decodesTo h (hfed.give _ true)
  | @piece s s' inp outs outs' _ hdrains _ ih =>
    have hrest := ih (hdrains.fed h (hfed.give _ false))
    rwa [List.append_assoc, List.append_assoc, List.take_append_drop,
      ← List.flatten_append] at hrest

/-- What a whole input is encoded to decodes to the input. -/
theorem Encodes.decodesTo (h : enc.Lawful decode) {size space : Nat} {inp : List α}
    {outs : List (List β)} (hencodes : Encodes enc size space enc.start inp outs) :
    DecodesTo decode outs.flatten inp :=
  hencodes.decodesTo_append h .start

/-- The input so far, and the output that is left once the input has ended. -/
structure Buffer (α β : Type) where
  input : List α := []
  left : Option (List β) := none

/-- What is left to hand out when the input ends with a piece. -/
def Buffer.output (encode : List α → List β) (s : Buffer α β) (piece : List α) : List β :=
  s.left.getD (encode (s.input ++ piece))

/-- Encode the whole input when it has ended. -/
def buffered (encode : List α → List β) : StreamEncoder α β where
  State := Buffer α β
  start := {}
  call s piece space finish :=
    if finish then
      some (⟨s.input ++ piece, some ((s.output encode piece).drop space)⟩, [],
        (s.output encode piece).take space)
    else some ({ s with input := s.input ++ piece }, [], [])

/-- A buffered coder only collects the input until the last call, and gives out what fits then. -/
theorem buffered_call {encode : List α → List β} {finish : Bool} {s s' : Buffer α β}
    {piece rest : List α} {more : List β} {space : Nat}
    (h : (buffered encode).call s piece space finish = some (s', rest, more)) :
    rest = [] ∧ s'.input = s.input ++ piece ∧
      (finish = false ∧ s'.left = s.left ∧ more = [] ∨
        finish = true ∧ s'.left = some ((s.output encode piece).drop space) ∧
          more = (s.output encode piece).take space) := by
  cases finish with
  | false =>
    have heq : (({ s with input := s.input ++ piece } : Buffer α β), ([] : List α), ([] : List β)) =
        (s', rest, more) := Option.some.inj h
    simp only [Prod.mk.injEq] at heq
    obtain ⟨rfl, rfl, rfl⟩ := heq
    simp
  | true =>
    have heq : ((⟨s.input ++ piece, some ((s.output encode piece).drop space)⟩ : Buffer α β),
        ([] : List α), (s.output encode piece).take space) = (s', rest, more) := Option.some.inj h
    simp only [Prod.mk.injEq] at heq
    obtain ⟨rfl, rfl, rfl⟩ := heq
    simp

/-- A buffered stream has the whole input; once that has ended, what was handed out and what
    is left are the encoding. -/
theorem fed_buffered {encode : List α → List β} {finish : Bool} {s : (buffered encode).State}
    {piece inp : List α} {out : List β} (h : Fed (buffered encode) finish s piece inp out) :
    Buffer.input s ++ piece = inp ∧ (Buffer.left s = none ∧ out = [] ∨
      finish = true ∧ ∃ left, Buffer.left s = some left ∧ out ++ left = encode inp) := by
  induction h with
  | start => exact ⟨rfl, .inl ⟨rfl, rfl⟩⟩
  -- Input is given only while the stream is not ended, so nothing is left over.
  | give h piece finish ih =>
    obtain ⟨hinp, hout⟩ := ih
    rw [List.append_nil] at hinp
    rw [hinp]
    exact ⟨rfl, .inl (hout.resolve_right fun hended => Bool.false_ne_true hended.1)⟩
  | @call finish s s' piece rest inp out more space h hcall hfinish ih =>
    obtain ⟨hinp, hout⟩ := ih
    obtain ⟨rfl, hinput, ⟨rfl, hleft, rfl⟩ | ⟨rfl, hleft, rfl⟩⟩ := buffered_call hcall
    -- A call that does not finish keeps its piece and gives nothing out.
    · rw [hinput, hleft, List.append_nil, List.append_nil]
      exact ⟨hinp, hout⟩
    -- A finishing call gives out as much of the code as there is space for; the rest is left.
    · rw [hinput, List.append_nil]
      refine ⟨hinp, .inr ⟨rfl, _, hleft, ?_⟩⟩
      have houtput : Buffer.output encode s piece =
          (Buffer.left s).getD (encode (Buffer.input s ++ piece)) := rfl
      rw [List.append_assoc, List.take_append_drop, houtput, hinp]
      -- What is given out is the head of the code at the first finishing call, of the rest later.
      rcases hout with ⟨hnone, rfl⟩ | ⟨-, left, hsome, hencode⟩
      · rw [hnone]
        rfl
      · rw [hsome]
        exact hencode

/-- Where the encoding can be decoded with anything behind it, so can the pieces. -/
theorem buffered_lawful {encode : List α → List β}
    (h : ∀ inp further, decode (encode inp ++ further) = (decode further).map (inp ++ ·)) :
    Lawful (buffered encode) decode where
  length_le := by
    intro finish s s' piece rest inp out more space _ hcall
    obtain ⟨-, -, ⟨-, -, rfl⟩ | ⟨-, -, rfl⟩⟩ := buffered_call hcall
    · exact Nat.zero_le _
    · exact List.length_take_le _ _
  taken := by
    intro finish s s' piece rest inp out more space _ hcall _
    exact (buffered_call hcall).1
  complete := by
    intro s s' piece rest inp out more space hfed hcall hspace further
    obtain ⟨hinp, hout⟩ := fed_buffered hfed
    obtain ⟨-, -, ⟨hfinish, -, -⟩ | ⟨-, -, hmore⟩⟩ := buffered_call hcall
    · exact absurd hfinish (by simp)
    -- Space is left in the buffer, so the call has given out all there was.
    have hall : Buffer.output encode s piece = more := by
      rw [hmore, List.take_of_length_le]
      rw [hmore, List.length_take] at hspace
      omega
    have houtput : Buffer.output encode s piece =
        (Buffer.left s).getD (encode (Buffer.input s ++ piece)) := rfl
    have hencode : out ++ more = encode inp := by
      rw [← hall, houtput, hinp]
      rcases hout with ⟨hnone, rfl⟩ | ⟨-, left, hsome, hencode⟩
      · rw [hnone]
        rfl
      · rw [hsome]
        exact hencode
    rw [hencode, h]

end StreamEncoder
