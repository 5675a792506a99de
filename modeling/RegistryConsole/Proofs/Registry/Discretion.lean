import RegistryConsole.Proofs.Registry.Deployment
/-!
# Discretion

What the registry sends with a failure is kept for the log: it ends in the details of an envelope,
and nobody looks at these. So a dialogue goes the same way with two registries that differ in the
payloads of their failures only. `Discreet` says this of a dialogue, together with what holds of all
its requests and of what it ends with.
-/
namespace RegistryConsole

/-- The same data, or the same message with any details. -/
inductive Envelope.Alike {α : Type} : Envelope α → Envelope α → Prop where
  | ok (data : α) : Alike (.ok data) (.ok data)
  | error (message : String) (details details' : List String) :
    Alike (.error message details) (.error message details')

theorem Envelope.Alike.refl {α : Type} (e : Envelope α) : e.Alike e := by
  cases e with
  | ok data => exact .ok data
  | error message details => exact .error message details details

theorem Envelope.Alike.map {α β : Type} {e e' : Envelope α} (h : e.Alike e') (f : α → β) :
    (e.map f).Alike (e'.map f) := by
  cases h with
  | ok data => exact .ok (f data)
  | error message details details' => exact .error message details details'

namespace Registry

/-- The same answer, or two failing ones of one status. -/
inductive Answer.Alike : Answer → Answer → Prop where
  | same (answer : Answer) : Alike answer answer
  | failed {status : Nat} (h : ¬ Envelope.isSuccess status = true) (body body' : List UInt8) :
    Alike (.response status body) (.response status body')

namespace Dialogue

variable {α β : Type}

/-- Two dialogues put the same requests while the answers are alike, and end with results that `q`
relates. All the requests satisfy `p`. -/
inductive Alike (p : Request → Prop) (q : α → α → Prop) : Dialogue α → Dialogue α → Prop where
  | done {a a' : α} (h : q a a') : Alike p q (.done a) (.done a')
  | ask {request : Request} {next next' : Answer → Dialogue α} (hrequest : p request)
    (hnext : ∀ answer answer', answer.Alike answer' → Alike p q (next answer) (next' answer')) :
    Alike p q (.ask request next) (.ask request next')

theorem Alike.bind {p : Request → Prop} {q : α → α → Prop} {r : β → β → Prop} {d d' : Dialogue α}
    {f f' : α → Dialogue β} (hd : Alike p q d d')
    (hf : ∀ a a', q a a' → Alike p r (f a) (f' a')) : Alike p r (d.bind f) (d'.bind f') := by
  induction hd with
  | done h => exact hf _ _ h
  | ask hrequest _ ih => exact .ask hrequest ih

theorem Alike.map {p : Request → Prop} {q : α → α → Prop} {r : β → β → Prop} {d d' : Dialogue α}
    {f f' : α → β} (hd : Alike p q d d') (hf : ∀ a a', q a a' → r (f a) (f' a')) :
    Alike p r (d.map f) (d'.map f') :=
  hd.bind fun a a' ha => .done (hf a a' ha)

/-- A dialogue that goes one way while answers are alike, with requests that satisfy `p`, and ends
with a result that satisfies `q`. -/
def Discreet (p : Request → Prop) (q : α → Prop) (d : Dialogue α) : Prop :=
  Alike p (fun a a' => a = a' ∧ q a) d d

namespace Discreet

variable {p : Request → Prop} {q q' : α → Prop} {r : β → Prop} {d : Dialogue α}

theorem done {a : α} (h : q a) : (Dialogue.done a).Discreet p q :=
  Alike.done ⟨rfl, h⟩

theorem bind {f : α → Dialogue β} (hd : d.Discreet p q) (hf : ∀ a, q a → (f a).Discreet p r) :
    (d.bind f).Discreet p r := by
  refine Alike.bind hd ?_
  rintro a _ ⟨rfl, ha⟩
  exact hf a ha

theorem map {f : α → β} (hd : d.Discreet p q) (hf : ∀ a, q a → r (f a)) :
    (d.map f).Discreet p r :=
  hd.bind fun a ha => .done (hf a ha)

theorem mono (hd : d.Discreet p q) (hq : ∀ a, q a → q' a) : d.Discreet p q' := by
  have h := hd.map (f := id) hq
  rwa [Dialogue.map, show (fun a => Dialogue.done (id a)) = Dialogue.done from rfl, bind_done] at h

theorem bind_envelope {d : Dialogue (Envelope α)} {f : Envelope α → Dialogue β}
    (hd : Alike p Envelope.Alike d d)
    (hblind : ∀ message details details', f (.error message details) = f (.error message details'))
    (hf : ∀ answer, (f answer).Discreet p r) : (d.bind f).Discreet p r := by
  refine hd.bind ?_
  intro answer answer' h
  cases h with
  | ok data => exact hf (.ok data)
  | error message details details' =>
      rw [hblind message details' details]
      exact hf (.error message details)

theorem map_envelope {d : Dialogue (Envelope α)} {f : Envelope α → β}
    (hd : Alike p Envelope.Alike d d)
    (hblind : ∀ message details details', f (.error message details) = f (.error message details'))
    (hf : ∀ answer, r (f answer)) : (d.map f).Discreet p r :=
  bind_envelope hd (fun message details details' => by rw [hblind message details details'])
    fun answer => .done (hf answer)

theorem meets (hd : d.Discreet p q) : d.Meets p q := by
  have h : ∀ d d', Alike p (fun a a' => a = a' ∧ q a) d d' → d.Meets p q := by
    intro d d' hd
    induction hd with
    | done h => exact .done h.2
    | ask hrequest _ ih => exact .ask hrequest fun answer => ih answer answer (.same answer)
  exact h d d hd

end Discreet

section Registries

variable {σ τ : Type} {registry : Responder σ} {registry' : Responder τ} {s : σ} {s' : τ}

def RepliesAlike (registry : Responder σ) (s : σ) (registry' : Responder τ) (s' : τ)
    (asked : List Request) : Prop :=
  ∀ history call, history ++ [call] <+: asked →
    (registry (after registry s history) call).1.Alike
      (registry' (after registry' s' history) call).1

theorem RepliesAlike.left {asked later : List Request}
    (h : RepliesAlike registry s registry' s' (asked ++ later)) :
    RepliesAlike registry s registry' s' asked := by
  intro history call hasked
  exact h history call (hasked.trans (List.prefix_append asked later))

theorem RepliesAlike.right {asked later : List Request}
    (h : RepliesAlike registry s registry' s' (asked ++ later)) :
    RepliesAlike registry (after registry s asked) registry' (after registry' s' asked) later := by
  intro history call hasked
  rw [← after_append, ← after_append]
  refine h (asked ++ history) call ?_
  rw [List.append_assoc]
  exact (List.prefix_append_right_inj asked).mpr hasked

/-- With two registries whose answers are alike, dialogues that are alike go the same way. -/
theorem Alike.play {p : Request → Prop} {q : α → α → Prop} {d d' : Dialogue α} (hd : Alike p q d d')
    (h : RepliesAlike registry s registry' s' (calls registry d s)) :
    calls registry d s = calls registry' d' s' ∧
      q (result registry d s) (result registry' d' s') := by
  induction hd generalizing s s' with
  | done ha => exact ⟨rfl, ha⟩
  | @ask request next next' hrequest _ ih =>
      rw [calls_ask] at h
      have hanswer := h [] request ⟨_, rfl⟩
      rw [← List.singleton_append] at h
      obtain ⟨hcalls, hresult⟩ := ih _ _ hanswer h.right
      exact ⟨congrArg (request :: ·) hcalls, hresult⟩

end Registries

end Dialogue

namespace Client

open Dialogue

variable {α β : Type}

theorem receive_alike (url : Url) (decode : Json.Decoder α) {answer answer' : Answer}
    (h : answer.Alike answer') :
    (receive url decode answer).Alike (receive url decode answer') := by
  cases h with
  | same answer => exact .refl _
  | failed hstatus body body' =>
      rw [receive, receive, Envelope.ofResponse, Envelope.ofResponse, if_neg hstatus,
        if_neg hstatus]
      exact .error _ _ _

theorem send_alike (c : Client) (method : Method) (path : String) (body : Option Json)
    (decode : Json.Decoder α) :
    Alike (fun r => r.cookie = c.cookie) Envelope.Alike (c.send method path body decode)
      (c.send method path body decode) := by
  have h := c.send_cases method path body decode
  generalize c.send method path body decode = d at h ⊢
  obtain ⟨-, e, rfl⟩ | ⟨url, -, -, rfl⟩ := h
  · exact .done (.refl _)
  · exact .ask rfl fun answer answer' hanswer => .done (receive_alike url decode hanswer)

/-- The calls of a client pass on its cookies and tell of failures by their statuses. -/
abbrev Forwards (c : Client) (d : Dialogue (Envelope α)) : Prop :=
  Alike (fun r => r.cookie = c.cookie) Envelope.Alike d d

variable (c : Client) (path : String) (decode : Json.Decoder α)

theorem get_forwards : c.Forwards (c.get path decode) := by
  rw [get]
  exact c.send_alike .get path none decode

theorem delete_forwards : c.Forwards (c.delete path decode) := by
  rw [delete]
  exact c.send_alike .delete path none decode

theorem post_forwards (body : Json) : c.Forwards (c.post path body decode) := by
  rw [post, sendBody]
  exact c.send_alike .post path _ decode

variable {c}

theorem Forwards.unless {call : Dialogue (Envelope α)} (h : c.Forwards call) (missing : Bool)
    (reason : String) : c.Forwards (if missing then refuse reason else call) := by
  cases missing with
  | true => exact .done (.refl _)
  | false => exact h

theorem Forwards.map {call : Dialogue (Envelope α)} (h : c.Forwards call) (f : α → β) :
    c.Forwards (call.map (.map f)) :=
  Alike.map h fun _ _ hanswer => hanswer.map f

end Client

variable (c : Client)

theorem Artifacts.getAll_forwards : c.Forwards (getAll c) := by
  rw [getAll]
  exact (c.get_forwards _ _).map _

theorem Artifacts.getOne_forwards (slug : Slug) : c.Forwards (getOne c slug) := by
  rw [getOne]
  exact ((c.get_forwards _ _).map _).unless _ _

theorem Authorities.getAll_forwards : c.Forwards (getAll c) := by
  rw [getAll]
  exact c.get_forwards _ _

theorem Authorities.create_forwards (authority : NewAuthority) :
    c.Forwards (create c authority) := by
  rw [create]
  exact c.post_forwards _ _ _

theorem Authorities.delete_forwards (id : String) : c.Forwards (delete c id) := by
  rw [delete]
  exact (c.delete_forwards _ _).unless _ _

theorem Keys.create_forwards (authorityId : String) (key : NewKey) :
    c.Forwards (create c authorityId key) := by
  rw [create]
  exact (c.post_forwards _ _ _).unless _ _

theorem Keys.delete_forwards (authorityId id : String) :
    c.Forwards (delete c authorityId id) := by
  rw [delete]
  exact (c.delete_forwards _ _).unless _ _

theorem ApiKeys.create_forwards (authorityId : String) (key : NewApiKey) :
    c.Forwards (create c authorityId key) := by
  rw [create]
  exact (c.post_forwards _ _ _).unless _ _

theorem ApiKeys.delete_forwards (authorityId id : String) :
    c.Forwards (delete c authorityId id) := by
  rw [delete]
  exact (c.delete_forwards _ _).unless _ _

/-- The runtime document is asked for with the cookies of whoever comes first. -/
theorem RuntimeCache.init_discreet (cache : RuntimeCache) :
    (cache.init c).Discreet (fun r => r.cookie = c.cookie) fun _ => True := by
  rw [init]
  cases cache.resolved with
  | some runtime => exact .done True.intro
  | none =>
      dsimp only
      rw [refresh]
      exact .map_envelope (c.get_forwards _ _) (fun _ _ _ => rfl) fun _ => True.intro

end Registry

end RegistryConsole
