import MindChat.Connectivity
import MindChat.Runs

/-! Who owns which field of a contact. The server confirms subscriptions, presence
updates project presence and status, and a local edit writes the whole record: along
a run each field is what the last operation that may write it has written. -/

namespace MindChat

open MindChatCore

abbrev ContactKey := AccountId × String

/-- What an operation asks of the contacts, as a call or as a transport event. -/
inductive ContactChange
  | edited (key : ContactKey) (displayName : String) (presence : ContactPresence)
      (status : Option String)
  | synced (key : ContactKey) (displayName : String) (subscription : RosterSubscription)
  | removed (key : ContactKey)
  | seen (key : ContactKey) (presence : ContactPresence) (status : Option String)
  | accountDeleted (accountId : AccountId)

def CoreOp.contactChange : CoreOp → Option ContactChange
  | upsertContact accountId jid displayName presence status =>
    some (.edited (accountId,jid) displayName presence status)
  | syncRosterContact accountId jid displayName subscription
  | applyTransportEvent (.rosterContactUpsert accountId jid displayName subscription) =>
    some (.synced (accountId,jid) displayName subscription)
  | removeContact accountId jid | applyTransportEvent (.rosterContactRemoved accountId jid) =>
    some (.removed (accountId,jid))
  | updateContactPresence accountId jid presence status
  | applyTransportEvent (.contactPresenceUpdated accountId jid presence status) =>
    some (.seen (accountId,jid) presence status)
  | deleteAccount accountId => some (.accountDeleted accountId)
  | _ => none

namespace MindChatCore

/-- The account is known and the JID passes the check. -/
def Hears (c : MindChatCore) (key : ContactKey) : Prop :=
  (c.accounts.lookup key.1).isSome ∧ validateJid key.2 = .ok ()

instance (c : MindChatCore) (key : ContactKey) : Decidable (c.Hears key) :=
  inferInstanceAs (Decidable (_ ∧ _))

variable {c : MindChatCore} {accountId : AccountId} {jid : String}

theorem hears_of_known (ha : ¬ (c.accounts.lookup accountId).isNone) (hj : validateJid jid = .ok ()) :
    c.Hears (accountId,jid) :=
  ⟨by simpa [Option.isSome_iff_ne_none] using ha,hj⟩

theorem not_hears_of_isNone (ha : (c.accounts.lookup accountId).isNone) : ¬ c.Hears (accountId,jid) := by
  rintro ⟨hs,-⟩
  simp [Option.isNone_iff_eq_none.mp ha] at hs

theorem not_hears_of_error {e : CoreError} (hj : validateJid jid = .error e) :
    ¬ c.Hears (accountId,jid) := by
  rintro ⟨-,ho⟩
  cases ho.symm.trans hj

end MindChatCore

namespace ContactChange

def apply (c : MindChatCore) : ContactChange → Table ContactKey Contact
  | edited key displayName presence status =>
    if c.Hears key then c.contacts.insert key
      ⟨key.1,key.2,normalizeContactName displayName key.2,presence,normalizeStatus status,.none⟩
    else c.contacts
  | synced key displayName subscription =>
    if c.Hears key then c.contacts.insert key
      ⟨key.1,key.2,normalizeContactName displayName key.2,
        ((c.contacts.lookup key).map Contact.presence).getD .offline,
        (c.contacts.lookup key).bind Contact.status,subscription⟩
    else c.contacts
  | removed key => if c.Hears key then c.contacts.erase key else c.contacts
  | seen key presence status =>
    if c.Hears key then
      match c.contacts.lookup key with
      | none => c.contacts
      | some contact =>
        c.contacts.insert key { contact with presence := presence, status := normalizeStatus status }
    else c.contacts
  | accountDeleted accountId =>
    if (c.accounts.lookup accountId).isSome then c.contacts.retain (fun key _ => key.1 ≠ accountId)
    else c.contacts

variable {c : MindChatCore}

theorem contacts_upsertContact (accountId : AccountId) (jid displayName : String)
    (presence : ContactPresence) (status : Option String) :
    (c.upsertContact accountId jid displayName presence status).2.contacts =
      (edited (accountId,jid) displayName presence status).apply c := by
  unfold upsertContact ensureAccount
  simp only [apply]
  by_cases ha : (c.accounts.lookup accountId).isSome
  · rw [if_pos ha]
    dsimp only
    split
    · next e hj => rw [if_neg (not_hears_of_error hj)]
    · next hj => rw [if_pos ⟨ha,hj⟩]; rfl
  · rw [if_neg ha,if_neg (fun h : c.Hears (accountId,jid) => ha h.1)]

theorem contacts_syncRosterContact (accountId : AccountId) (jid displayName : String)
    (subscription : RosterSubscription) :
    (c.syncRosterContact accountId jid displayName subscription).2.contacts =
      (synced (accountId,jid) displayName subscription).apply c := by
  unfold syncRosterContact
  simp only [apply]
  split
  · next ha => rw [if_neg (not_hears_of_isNone ha)]
  · next ha =>
    split
    · next e hj => rw [if_neg (not_hears_of_error hj)]
    · next hj => rw [if_pos (hears_of_known ha hj)]; rfl

theorem contacts_removeContact (accountId : AccountId) (jid : String) (k : ContactKey) :
    (c.removeContact accountId jid).2.contacts.lookup k =
      ((removed (accountId,jid)).apply c).lookup k := by
  unfold removeContact
  simp only [apply]
  split
  · next ha => rw [if_neg (not_hears_of_isNone ha)]
  · next ha =>
    split
    · next e hj => rw [if_neg (not_hears_of_error hj)]
    · next hj =>
      rw [if_pos (hears_of_known ha hj)]
      split
      · rfl
      · next hn =>
        rw [Table.lookup_erase_if]
        split
        · next hk => rw [hk]; exact Option.not_isSome_iff_eq_none.mp hn
        · rfl

theorem contacts_updateContactPresence (accountId : AccountId) (jid : String)
    (presence : ContactPresence) (status : Option String) :
    (c.updateContactPresence accountId jid presence status).2.contacts =
      (seen (accountId,jid) presence status).apply c := by
  unfold updateContactPresence
  simp only [apply]
  split
  · next ha => rw [if_neg (not_hears_of_isNone ha)]
  · next ha =>
    split
    · next e hj => rw [if_neg (not_hears_of_error hj)]
    · next hj =>
      rw [if_pos (hears_of_known ha hj)]
      cases c.contacts.lookup (accountId,jid) <;> rfl

theorem contacts_deleteAccount (accountId : AccountId) :
    (c.deleteAccount accountId).2.contacts = (accountDeleted accountId).apply c := by
  have hf : ∀ (ids : List ConversationId) (c : MindChatCore),
      (ids.foldl removeConversationState c).contacts = c.contacts := by
    intro ids
    induction ids with
    | nil => exact fun _ => rfl
    | cons id ids ih =>
      intro c
      rw [List.foldl_cons,ih,removeConversationState_eq]
  unfold deleteAccount
  simp only [apply]
  split
  · next ha => rw [if_neg (by simpa [Option.isNone_iff_eq_none] using ha)]
  · next ha =>
    rw [if_pos (by simpa [Option.isSome_iff_ne_none] using ha)]
    simp only [push,hf]

end ContactChange

namespace MindChatCore

variable {c : MindChatCore}

theorem contacts_updateAccount (accountId : AccountId) (change : Account → Account) :
    (c.updateAccount accountId change).2.contacts = c.contacts := by
  unfold updateAccount
  split <;> rfl

theorem contacts_insertMessage (message : MessageId → Message) (incrementUnread : Bool) :
    (c.insertMessage message incrementUnread).2.contacts = c.contacts := by
  simp only [insertMessage,allocateMessageId,touchConversation]
  split <;> rename_i h <;> split at h <;> cases h <;> rfl

theorem contacts_receiveText (conversationId : ConversationId) (sender body : String) (now : ℕ) :
    (c.receiveText conversationId sender body now).2.contacts = c.contacts := by
  unfold receiveText
  repeat' split
  all_goals first | rfl | exact contacts_insertMessage ..

theorem contacts_receiveTransportText (accountId : AccountId) (kind : ConversationKind)
    (address sender body : String) (receivedAt : ℕ) :
    (c.receiveTransportText accountId kind address sender body receivedAt).2.contacts = c.contacts := by
  have ht : (c.targetConversation accountId kind address receivedAt).2.contacts = c.contacts := by
    unfold targetConversation
    split <;> rfl
  unfold receiveTransportText
  split
  · rfl
  split
  · rfl
  split
  · rfl
  · have hr := contacts_receiveText (c := (c.targetConversation accountId kind address receivedAt).2)
      (c.targetConversation accountId kind address receivedAt).1 sender body receivedAt
    dsimp only
    split <;> rename_i h <;> rw [h] at hr <;> exact hr.trans ht

theorem contacts_applyTransportEvent {event : TransportEvent}
    (h : (CoreOp.applyTransportEvent event).contactChange = none) :
    (c.applyTransportEvent event).2.contacts = c.contacts := by
  cases event with
  | connected accountId | disconnected accountId => exact contacts_updateAccount accountId _
  | capabilitiesDiscovered accountId capabilities =>
    have hs : (c.setCapabilities accountId capabilities).2.contacts = c.contacts :=
      contacts_updateAccount accountId _
    simp only [applyTransportEvent]
    split
    · split <;> rename_i hr <;> rw [hr] at hs <;> exact hs
    · rfl
  | rosterContactUpsert | rosterContactRemoved | contactPresenceUpdated => cases h
  | incomingText accountId kind address sender body receivedAt =>
    simp only [applyTransportEvent]
    exact contacts_receiveTransportText accountId kind address sender body receivedAt
  | deliveryUpdated accountId sender messageId state =>
    simp only [applyTransportEvent]
    rcases applyDeliveryUpdate_cases c accountId sender messageId state with
      he | ⟨m,v,-,-,-,-,-,-,-,he⟩
    · rw [he]
    · rw [he]
      rfl

theorem applyTransportEvent_snd {accountId : AccountId} {jid : String} :
    (∀ displayName subscription, (c.applyTransportEvent (.rosterContactUpsert accountId jid displayName
        subscription)).2 = (c.syncRosterContact accountId jid displayName subscription).2) ∧
      (c.applyTransportEvent (.rosterContactRemoved accountId jid)).2 = (c.removeContact accountId jid).2 ∧
      ∀ presence status, (c.applyTransportEvent (.contactPresenceUpdated accountId jid presence status)).2 =
        (c.updateContactPresence accountId jid presence status).2 := by
  refine ⟨fun displayName subscription => ?_,?_,fun presence status => ?_⟩ <;>
    simp only [applyTransportEvent] <;> split <;> rename_i h <;> rw [h]

end MindChatCore

variable {c : MindChatCore}

theorem CoreOp.contacts_run (op : CoreOp) (k : ContactKey) :
    (op.run c).contacts.lookup k =
      (op.contactChange.elim c.contacts (ContactChange.apply c)).lookup k := by
  cases op with
  | upsertContact => exact congrArg _ (ContactChange.contacts_upsertContact ..)
  | syncRosterContact => exact congrArg _ (ContactChange.contacts_syncRosterContact ..)
  | removeContact => exact ContactChange.contacts_removeContact ..
  | updateContactPresence => exact congrArg _ (ContactChange.contacts_updateContactPresence ..)
  | deleteAccount => exact congrArg _ (ContactChange.contacts_deleteAccount ..)
  | applyTransportEvent event =>
    simp only [run]
    cases event with
    | rosterContactUpsert =>
      rw [applyTransportEvent_snd.1]
      exact congrArg _ (ContactChange.contacts_syncRosterContact ..)
    | rosterContactRemoved =>
      rw [applyTransportEvent_snd.2.1]
      exact ContactChange.contacts_removeContact ..
    | contactPresenceUpdated =>
      rw [applyTransportEvent_snd.2.2]
      exact congrArg _ (ContactChange.contacts_updateContactPresence ..)
    | _ => exact congrArg _ (contacts_applyTransportEvent rfl)
  | setConnectionState | setCapabilities | setAccountProxies =>
    exact congrArg _ (contacts_updateAccount ..)
  | updateAccountDisplayName =>
    simp only [run,MindChatCore.updateAccountDisplayName]
    split
    · rfl
    · exact congrArg _ (contacts_updateAccount ..)
  | sendText =>
    simp only [run,MindChatCore.sendText]
    repeat' split
    all_goals first | rfl | exact congrArg _ (contacts_insertMessage ..)
  | receiveText => exact congrArg _ (contacts_receiveText ..)
  | deleteConversation conversationId =>
    simp only [run,MindChatCore.deleteConversation]
    split
    · rfl
    · rw [removeConversationState_eq]
      rfl
  | addAccount | openConversation | attach | setDeliveryState | addReaction | markConversationRead =>
    simp only [run,MindChatCore.addAccount,MindChatCore.openConversation,insertConversation,
      MindChatCore.attach,MindChatCore.setDeliveryState,MindChatCore.addReaction,
      MindChatCore.markConversationRead]
    repeat' split
    all_goals rfl
  | drainEvents => rfl


/-- A field of a contact as it is shown, with its value for a contact that is not stored. -/
def shown {W : Type} (view : Contact → W) (absent : W) (t : Table ContactKey Contact) (key : ContactKey) : W :=
  ((t.lookup key).map view).getD absent

section

variable {W : Type} {view : Contact → W} {absent : W} {t : Table ContactKey Contact} {k key : ContactKey}

theorem shown_insert {contact : Contact} : shown view absent (t.insert k contact) key =
    if key = k then view contact else shown view absent t key := by
  unfold shown
  rw [Table.lookup_insert_if]
  split <;> rfl

theorem shown_erase :
    shown view absent (t.erase k) key = if key = k then absent else shown view absent t key := by
  unfold shown
  rw [Table.lookup_erase_if]
  split <;> rfl

theorem shown_retain {accountId : AccountId} :
    shown view absent (t.retain (fun key _ => key.1 ≠ accountId)) key =
      if key.1 = accountId then absent else shown view absent t key := by
  unfold shown
  rw [Table.lookup_retain]
  by_cases hk : key.1 = accountId <;> cases t.lookup key <;> simp [hk,Option.filter]

theorem shown_of_lookup {contact : Contact} (h : t.lookup key = some contact) :
    shown view absent t key = view contact := by
  rw [shown,h]
  rfl

end

def shownSubscription (t : Table ContactKey Contact) (key : ContactKey) : RosterSubscription :=
  shown Contact.subscription .none t key

def shownPresence (t : Table ContactKey Contact) (key : ContactKey) : ContactPresence × Option String :=
  shown (fun contact => (contact.presence,contact.status)) (.offline,none) t key

namespace ContactChange

/-- The subscription the server tells for a contact, none when the contact is removed. -/
def tells (key : ContactKey) (c : MindChatCore) : ContactChange → Option RosterSubscription
  | synced k _ subscription => if key = k ∧ c.Hears k then some subscription else none
  | removed k => if key = k ∧ c.Hears k then some .none else none
  | accountDeleted accountId =>
    if key.1 = accountId ∧ (c.accounts.lookup accountId).isSome then some .none else none
  | _ => none

/-- The presence and status that are projected for a contact. -/
def projects (key : ContactKey) (c : MindChatCore) : ContactChange → Option (ContactPresence × Option String)
  | edited k _ presence status =>
    if key = k ∧ c.Hears k then some (presence,normalizeStatus status) else none
  | seen k presence status =>
    if key = k ∧ c.Hears k ∧ (c.contacts.lookup k).isSome then some (presence,normalizeStatus status) else none
  | removed k => if key = k ∧ c.Hears k then some (.offline,none) else none
  | accountDeleted accountId =>
    if key.1 = accountId ∧ (c.accounts.lookup accountId).isSome then some (.offline,none) else none
  | synced _ _ _ => none

/-- A local edit of a contact that the server has confirmed a subscription of. -/
def Forgets (c : MindChatCore) : ContactChange → Prop
  | edited key _ _ _ => c.Hears key ∧ shownSubscription c.contacts key ≠ .none
  | _ => False

variable {c : MindChatCore}

/-- Every change shows what it projects, and keeps what was shown where it projects nothing. -/
theorem shownPresence_apply (change : ContactChange) (key : ContactKey) :
    shownPresence (change.apply c) key = (change.projects key c).getD (shownPresence c.contacts key) := by
  cases change with
  | edited k displayName presence status =>
    simp only [apply,projects,shownPresence]
    by_cases hh : c.Hears k
    · rw [if_pos hh,shown_insert]
      split_ifs <;> simp_all
    · simp [hh]
  | synced k displayName subscription =>
    simp only [apply,projects,shownPresence]
    split
    · rw [shown_insert]
      split
      · next hk => subst hk; cases hl : c.contacts.lookup key <;> simp [hl,shown]
      · rfl
    · rfl
  | removed k =>
    simp only [apply,projects,shownPresence]
    by_cases hh : c.Hears k
    · rw [if_pos hh,shown_erase]
      split_ifs <;> simp_all
    · simp [hh]
  | seen k presence status =>
    simp only [apply,projects,shownPresence]
    by_cases hh : c.Hears k
    · rw [if_pos hh]
      cases hl : c.contacts.lookup k with
      | none => simp
      | some contact =>
        dsimp only
        rw [shown_insert]
        split_ifs <;> simp_all
    · simp [hh]
  | accountDeleted accountId =>
    simp only [apply,projects,shownPresence]
    by_cases hh : (c.accounts.lookup accountId).isSome
    · rw [if_pos hh,shown_retain]
      split_ifs <;> simp_all
    · simp [hh]

/-- Every change that does not forget it shows the subscription it tells, and keeps what was
shown where it tells nothing. -/
theorem shownSubscription_apply {change : ContactChange} (hf : ¬ change.Forgets c) (key : ContactKey) :
    shownSubscription (change.apply c) key = (change.tells key c).getD (shownSubscription c.contacts key) := by
  cases change with
  | edited k displayName presence status =>
    simp only [apply,tells,shownSubscription]
    split
    · next hh =>
      rw [shown_insert]
      split
      · next hk =>
        subst hk
        exact (not_not.mp fun hn => hf ⟨hh,hn⟩ : shownSubscription c.contacts key = .none).symm
      · rfl
    · rfl
  | synced k displayName subscription =>
    simp only [apply,tells,shownSubscription]
    by_cases hh : c.Hears k
    · rw [if_pos hh,shown_insert]
      split_ifs <;> simp_all
    · simp [hh]
  | removed k =>
    simp only [apply,tells,shownSubscription]
    by_cases hh : c.Hears k
    · rw [if_pos hh,shown_erase]
      split_ifs <;> simp_all
    · simp [hh]
  | seen k presence status =>
    simp only [apply,tells,shownSubscription]
    split
    · cases hl : c.contacts.lookup k with
      | none => rfl
      | some contact =>
        dsimp only
        rw [shown_insert]
        split
        · next hk => rw [hk,shown_of_lookup hl]; rfl
        · rfl
    · rfl
  | accountDeleted accountId =>
    simp only [apply,tells,shownSubscription]
    by_cases hh : (c.accounts.lookup accountId).isSome
    · rw [if_pos hh,shown_retain]
      split_ifs <;> simp_all
    · simp [hh]

theorem shownSubscription_forgotten {change : ContactChange} (hf : change.Forgets c) :
    ∃ key contact, (change.apply c).lookup key = some contact ∧ contact.subscription = .none ∧
      change.tells key c = none ∧ shownSubscription c.contacts key ≠ .none := by
  cases change with
  | edited key displayName presence status =>
    obtain ⟨hh,hn⟩ := hf
    let contact : Contact :=
      ⟨key.1,key.2,normalizeContactName displayName key.2,presence,normalizeStatus status,.none⟩
    refine ⟨key,contact,?_,rfl,rfl,hn⟩
    simp only [apply,if_pos hh,AList.lookup_insert,contact]
  | _ => exact hf.elim

end ContactChange

/-- The operations of a run, each with the core it met. -/
def history (c : MindChatCore) : List CoreOp → List (MindChatCore × CoreOp)
  | [] => []
  | op :: ops => (c,op) :: history (op.run c) ops

theorem history_concat (c : MindChatCore) (ops : List CoreOp) (op : CoreOp) :
    history c (ops ++ [op]) = history c ops ++ [(ops.foldl CoreOp.run c,op)] := by
  induction ops generalizing c with
  | nil => rfl
  | cons first ops ih =>
    rw [List.cons_append,history,ih]
    rfl

/-- The last that the changes of a run from the empty core say. -/
def lastWord {W : Type} (word : MindChatCore → ContactChange → Option W) (ops : List CoreOp) : Option W :=
  (history default ops).reverse.findSome? (fun entry => entry.2.contactChange.bind (word entry.1))

theorem lastWord_concat {W : Type} (word : MindChatCore → ContactChange → Option W) (ops : List CoreOp)
    (op : CoreOp) : lastWord word (ops ++ [op]) =
      (op.contactChange.bind (word (ops.foldl CoreOp.run default))).or (lastWord word ops) := by
  unfold lastWord
  rw [history_concat,List.reverse_append,List.findSome?_append]
  cases h : op.contactChange.bind (word (ops.foldl CoreOp.run default)) <;> simp [h]

/-- What every change of a run shows as it says is shown as the last of them said. -/
theorem shown_eq_lastWord {W : Type} {view : Contact → W} {absent : W}
    (word : ContactKey → MindChatCore → ContactChange → Option W) {ops : List CoreOp}
    (h : ∀ before op change, before ++ [op] <+: ops → op.contactChange = some change → ∀ key,
      shown view absent (change.apply (before.foldl CoreOp.run default)) key =
        (word key (before.foldl CoreOp.run default) change).getD
          (shown view absent (before.foldl CoreOp.run default).contacts key)) (key : ContactKey) :
    shown view absent (ops.foldl CoreOp.run default).contacts key =
      (lastWord (word key) ops).getD absent := by
  induction ops using List.reverseRecOn with
  | nil => rfl
  | append_singleton ops op ih =>
    have ih := ih fun before o change hp => h before o change (hp.trans (List.prefix_append _ _))
    rw [lastWord_concat,List.foldl_append,List.foldl_cons,List.foldl_nil,shown,CoreOp.contacts_run]
    cases hc : op.contactChange with
    | none => exact ih
    | some change =>
      have hs := h ops op change List.prefix_rfl hc key
      rw [ih] at hs
      refine hs.trans ?_
      rw [Option.bind_some]
      cases word key (ops.foldl CoreOp.run default) change <;> rfl

/-- Every stored contact has the subscription last told for it since its last removal. -/
def SubscriptionsTold (ops : List CoreOp) : Prop :=
  ∀ key contact, (ops.foldl CoreOp.run default).contacts.lookup key = some contact →
    contact.subscription = (lastWord (ContactChange.tells key) ops).getD .none

/-- Every stored contact has the presence and status last projected for it. -/
def PresencesProjected (ops : List CoreOp) : Prop :=
  ∀ key contact, (ops.foldl CoreOp.run default).contacts.lookup key = some contact →
    (contact.presence,contact.status) = (lastWord (ContactChange.projects key) ops).getD (.offline,none)

def CoreOp.Forgets (c : MindChatCore) (op : CoreOp) : Prop :=
  ∃ change, op.contactChange = some change ∧ change.Forgets c

/-- In every run, presence and status are those last projected, whatever the server tells
of the roster; and all states of the run have the subscriptions the server last told
exactly when no local edit in it hits a contact with a confirmed subscription. -/
theorem subscription_belongs_to_server (ops : List CoreOp) :
    PresencesProjected ops ∧
      ((∀ before, before <+: ops → SubscriptionsTold before) ↔
        ∀ before op, before ++ [op] <+: ops → ¬ op.Forgets (before.foldl CoreOp.run default)) := by
  refine ⟨fun key contact hc => ?_,?_,?_⟩
  · exact (shown_of_lookup hc).symm.trans (shown_eq_lastWord ContactChange.projects (fun before op change _ _ =>
      change.shownPresence_apply) key)
  · rintro ht before op hp ⟨change,hc,hf⟩
    obtain ⟨key,contact,hl,hnone,htells,hn⟩ := ContactChange.shownSubscription_forgotten hf
    have hafter := ht (before ++ [op]) hp key contact (by
      rw [List.foldl_append,List.foldl_cons,List.foldl_nil,CoreOp.contacts_run,hc]
      exact hl)
    rw [lastWord_concat,hc,Option.bind_some,htells,Option.none_or,hnone] at hafter
    cases hb : (before.foldl CoreOp.run default).contacts.lookup key with
    | none => exact hn (by rw [shownSubscription,shown,hb]; rfl)
    | some stored =>
      have hbefore := ht before ((List.prefix_append _ _).trans hp) key stored hb
      exact hn ((shown_of_lookup hb).trans (hbefore.trans hafter.symm))
  · intro hf before hp key contact hc
    refine (shown_of_lookup hc).symm.trans (shown_eq_lastWord ContactChange.tells ?_ key)
    intro earlier op change hearlier hchange key
    exact ContactChange.shownSubscription_apply
      (fun h => hf earlier op (hearlier.trans hp) ⟨change,hchange,h⟩) key

/-- Bob's subscription is mutual; Ada corrects the name she shows him under. -/
theorem local_edit_forgets_subscription : ¬ ∀ ops : List CoreOp, SubscriptionsTold ops := by
  intro h
  have hc := h [.addAccount demoSetup,.applyTransportEvent (.rosterContactUpsert 1 "bob@host" "Bob" .mutual),
    .upsertContact 1 "bob@host" "Bobby" .online none] (1,"bob@host")
    ⟨1,"bob@host","Bobby",.online,none,.none⟩ (by decide +kernel)
  have hw : (lastWord (ContactChange.tells (1,"bob@host")) [.addAccount demoSetup,
      .applyTransportEvent (.rosterContactUpsert 1 "bob@host" "Bob" .mutual),
      .upsertContact 1 "bob@host" "Bobby" .online none]).getD .none = .mutual := by decide +kernel
  rw [hw] at hc
  cases hc

end MindChat
