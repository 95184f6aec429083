import CodeTwins.Proofs.Service.Arrival
import CodeTwins.Proofs.Service.Replies
import CodeTwins.Service.Local

/-!
# Values as texts

It makes no difference whether requests and replies go as values or as texts.
-/
namespace CodeTwins

open Json

namespace Content

/-- The content is empty, or a value whose text is read as the value. -/
inductive Plain : Content → Prop where
  | empty : Plain .empty
  | json {j : Json} (hj : j.Readable) : Plain (.json j)

private theorem readJson_write {j : Json} (hj : j.Readable) : readJson j.write = .ok j := by
  obtain ⟨c, hc, -, hmark, -⟩ := opens_writeIn .compact j
  unfold readJson
  split
  case h_1 heq =>
    have hfirst : j.write.toList.head? = some '\uFEFF' := by rw [heq]; rfl
    exact absurd (Option.some.inj (hc.symm.trans hfirst)) hmark
  case h_2 => exact parse_write hj

private theorem write_ne_empty (j : Json) : j.write ≠ "" := by
  intro h
  have hlength := length_pos_writeIn .compact j
  change 0 < j.write.toList.length at hlength
  rw [h] at hlength
  exact absurd hlength (by decide)

private theorem value_written {j : Json} (hj : j.Readable) :
    (json j).written.value = (json j).value :=
  readJson_write hj

private theorem shown_written (c : Content) : c.written.shown = c.shown := by
  cases c <;> rfl

end Content

namespace Service

open Http

private theorem carried_written {body : Content} (h : body.Plain) :
    carried body.written = carried body := by
  cases h with
  | empty => rfl
  | @json j hj =>
    have htype : (some "application/json").all isJsonType = true := by decide
    rw [Content.written]
    unfold carried
    split
    case h_1 heq => exact absurd (Content.text.inj heq).2 (Content.write_ne_empty j)
    case h_2 heq =>
      obtain ⟨rfl, rfl⟩ := Content.text.inj heq
      simp only [htype, if_true, Content.readJson_write hj]
    case h_3 heq => cases heq

variable {τ : Type} [LT τ] [DecidableRel (α := τ) (· < ·)] [Add τ]

/-- A service answers a text as it answers the value that the text is read as. -/
theorem respond_written (time : String) (s : Service Float τ) {r : Request}
    (h : r.body.Plain) : s.respond time { r with body := r.body.written } = s.respond time r :=
  respond_congr time s (carried_written h)

/-- The way on which texts go leads to the reply as a text. -/
theorem send_written (time : String) {s s' : Service Float τ} {r : Request} {reply : Response}
    (hbody : r.body.Plain) (hrespond : s.respond time r = (reply, s')) :
    (transport time).written r s =
      (.reply reply.status (Content.json reply.body).written, s') := by
  simp only [Transport.written, transport, respond_written time s hbody, hrespond]
  rfl

end Service

namespace Connection

open Client

variable {τ β : Type} [LT τ] [DecidableRel (α := τ) (· < ·)] [Add τ]

private theorem read_written {σ : Type} (c : Connection σ) (d : Demand)
    (parse : Json → Except Misfit β) (status : Nat) {j : Json} (hj : j.Readable) :
    c.read d parse (Outcome.reply status (.json j)).written =
      c.read d parse (.reply status (.json j)) := by
  simp only [Outcome.written, read, Content.shown_written, Content.value_written hj]

/-- What comes of a demand to a service is the same whether requests and replies go as texts or as
values. -/
theorem call_written {address time : String} {s : Service Float τ} (hs : Service.Answerable s)
    {d : Demand} (hbody : d.body.Plain) (hask : d.method ≠ .delete)
    (parse : Json → Except Misfit β) :
    call ⟨address, (Service.transport time).written⟩ d parse s =
      call ⟨address, Service.transport time⟩ d parse s := by
  have hrespond := Service.respond_written time s (r := d.request address) hbody
  have hreadable := (Service.tells_respond hs time (d.request address)).readable hask fun _ =>
    hs.line_of_mem_all
  have hread := read_written (⟨address, Service.transport time⟩ : Connection (Service Float τ)) d parse
    (s.respond time (d.request address)).1.status hreadable
  simp only [call, Transport.written, Service.transport, hrespond]
  exact Prod.ext hread rfl

end Connection

end CodeTwins
