/-
# The Solidity client registry

`ICS02ClientUpgradeable` maps a client id to a light-client contract and to
the counterparty's client id and merkle prefix. A client is added under a
generated id (`client-0`, `client-1`, …), by anyone, or under a custom id, by
an authorized caller; an authorized caller may migrate an existing id to a new
light client and counterparty. None of this touches the IBC store.

OpenZeppelin's `Strings` is not part of the repository: its three functions
the contracts call are parameters (`OzStrings`). Whether the access manager
lets the caller through (`restricted`) is an input of each call.

Key definitions: `ICS02Client.ICS02ClientStorage`, `ICS02Client.ClientCall`,
`ICS02Client.clientCall`, `IBCIdentifiers.validateCustomIBCIdentifier`.
-/
import IbcEureka.Solidity.IBCStore

/-- OpenZeppelin `Strings`, as the router uses it. -/
structure OzStrings where
  /-- `Strings.toString(uint256)`. -/
  toString : ℕ → Bytes
  /-- `Strings.toHexString(address)`. -/
  toHexString : Address → Bytes
  /-- The success flag of `Strings.tryParseAddress(string)`. -/
  tryParseAddress : Bytes → Bool

namespace IBCIdentifiers

/-- `CLIENT_ID_PREFIX`, `"client-"`. -/
def clientIdPrefix : Bytes := [0x63, 0x6c, 0x69, 0x65, 0x6e, 0x74, 0x2d]

/-- `CHANNEL_ID_PREFIX`, `"channel-"`. -/
def channelIdPrefix : Bytes := [0x63, 0x68, 0x61, 0x6e, 0x6e, 0x65, 0x6c, 0x2d]

/-- `hasPrefix`, which compares the Keccak-256 of the first bytes with that of the prefix. -/
def hasPrefix (H : Hashes) (bz pfx : Bytes) : Bool :=
  if bz.length < pfx.length then false
  else H.keccak256 (bz.take pfx.length) == H.keccak256 pfx

/-- The characters a custom identifier may hold: `a-z`, `0-9`, `A-Z`, `._+-#[]<>`. -/
def isIdentifierChar (b : UInt8) : Bool :=
  let c := b.toNat
  (0x61 ≤ c && c ≤ 0x7A) || (0x30 ≤ c && c ≤ 0x39) || (0x41 ≤ c && c ≤ 0x5A) ||
    (c == 0x2E || c == 0x5F || c == 0x2B || c == 0x2D) ||
    (c == 0x23 || c == 0x5B || c == 0x5D || c == 0x3C || c == 0x3E)

/-- `validateCustomIBCIdentifier`: 4 to 128 allowed characters, not starting as a channel or
a client id. -/
def validateCustomIBCIdentifier (H : Hashes) (customId : Bytes) : Bool :=
  if customId.length < 4 || customId.length > 128 then false
  else if hasPrefix H customId channelIdPrefix || hasPrefix H customId clientIdPrefix then false
  -- the loop returns false at the first character outside the set
  else customId.all isIdentifierChar

end IBCIdentifiers

namespace ICS02Client

/-- `ICS02ClientStorage`; a client address of zero is no client. -/
structure ICS02ClientStorage where
  clients : Bytes → Address
  counterpartyInfos : Bytes → CounterpartyInfo
  nextClientSeq : ℕ

/-- The registry of a freshly deployed router: no client. -/
def ICS02ClientStorage.init : ICS02ClientStorage := ⟨fun _ => 0, fun _ => ⟨[], []⟩, 0⟩

/-- The events of the registry. -/
inductive ICS02Event
  | ICS02ClientAdded (clientId : Bytes) (counterpartyInfo : CounterpartyInfo) (client : Address)
  | ICS02ClientMigrated (clientId : Bytes) (counterpartyInfo : CounterpartyInfo) (client : Address)
  deriving DecidableEq, Repr

/-- The calls into the registry that change it. -/
inductive ClientCall
  /-- `addClient(counterpartyInfo, client)`, under the next generated id. -/
  | addClient (counterpartyInfo : CounterpartyInfo) (client : Address)
  /-- `addClient(clientId, counterpartyInfo, client)`, `restricted`. -/
  | addClientWithId (authorized : Bool) (clientId : Bytes) (counterpartyInfo : CounterpartyInfo)
      (client : Address)
  /-- `migrateClient(clientId, counterpartyInfo, client)`, `restricted`. -/
  | migrateClient (authorized : Bool) (clientId : Bytes) (counterpartyInfo : CounterpartyInfo)
      (client : Address)
  deriving DecidableEq, Repr

/-- `getCounterparty`: reverts when the client id has no counterparty. -/
def getCounterparty (st : ICS02ClientStorage) (clientId : Bytes) : Except Revert CounterpartyInfo :=
  let counterpartyInfo := st.counterpartyInfos clientId
  if counterpartyInfo.clientId.length ≠ 0 then .ok counterpartyInfo
  else .error (.IBCCounterpartyClientNotFound clientId)

/-- `getClient`: reverts when the client id has no light client. -/
def getClient (st : ICS02ClientStorage) (clientId : Bytes) : Except Revert Address :=
  let client := st.clients clientId
  if client ≠ 0 then .ok client else .error (.IBCClientNotFound clientId)

/-- `_addClient`: the id must be free. -/
def addClientAt (st : ICS02ClientStorage) (clientId : Bytes) (counterpartyInfo : CounterpartyInfo)
    (client : Address) : Except Revert (ICS02ClientStorage × List ICS02Event) :=
  if st.clients clientId = 0 then
    .ok ({ st with clients := Function.update st.clients clientId client,
                   counterpartyInfos := Function.update st.counterpartyInfos clientId counterpartyInfo },
      [.ICS02ClientAdded clientId counterpartyInfo client])
  else .error (.IBCClientAlreadyExists clientId)

variable (S : OzStrings) (H : Hashes)

/-- One call into the registry. -/
def clientCall (st : ICS02ClientStorage) : ClientCall → Except Revert (ICS02ClientStorage × List ICS02Event)
  | .addClient counterpartyInfo client =>
    -- `nextClientId` takes the sequence and then increments it (checked `uint256`)
    if st.nextClientSeq + 1 < 2 ^ 256 then
      addClientAt { st with nextClientSeq := st.nextClientSeq + 1 }
        (IBCIdentifiers.clientIdPrefix ++ S.toString st.nextClientSeq) counterpartyInfo client
    else .error .ArithmeticOverflow
  | .addClientWithId authorized clientId counterpartyInfo client =>
    if !authorized then .error .AccessManagedUnauthorized
    else if clientId.length = 0 then .error (.IBCInvalidClientId clientId)
    else if !IBCIdentifiers.validateCustomIBCIdentifier H clientId then .error (.IBCInvalidClientId clientId)
    else addClientAt st clientId counterpartyInfo client
  | .migrateClient authorized clientId counterpartyInfo client =>
    if !authorized then .error .AccessManagedUnauthorized
    else match getClient st clientId with
      | .error e => .error e
      | .ok _ =>
        .ok ({ st with counterpartyInfos := Function.update st.counterpartyInfos clientId counterpartyInfo,
                       clients := Function.update st.clients clientId client },
          [.ICS02ClientMigrated clientId counterpartyInfo client])

end ICS02Client
