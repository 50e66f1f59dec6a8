import DevTools.Schema

namespace DevTools.Domain.WebAuthn

def types : List Declaration :=
  [ .wrapper "AuthenticatorId" .text,
    .enumeration "AuthenticatorProtocol" [("U2F", "u2f"), ("CTAP2", "ctap2")],
    .enumeration "Ctap2Version" [("CTAP2_0", "ctap2_0"), ("CTAP2_1", "ctap2_1")],
    .enumeration "AuthenticatorTransport"
      [ ("USB", "usb"), ("NFC", "nfc"), ("BLE", "ble"), ("CABLE", "cable"),
        ("INTERNAL", "internal") ],
    .record "VirtualAuthenticatorOptions"
      [ .required "protocol" "protocol" (.one (.ref "web_authn" "AuthenticatorProtocol")),
        .required "transport" "transport" (.one (.ref "web_authn" "AuthenticatorTransport")),
        .optional "ctap2_version" "ctap2Version" (.one (.ref "web_authn" "Ctap2Version")),
        .optional "has_resident_key" "hasResidentKey" (.one .boolean),
        .optional "has_user_verification" "hasUserVerification" (.one .boolean),
        .optional "has_large_blob" "hasLargeBlob" (.one .boolean),
        .optional "has_cred_blob" "hasCredBlob" (.one .boolean),
        .optional "has_min_pin_length" "hasMinPinLength" (.one .boolean),
        .optional "automatic_presence_simulation" "automaticPresenceSimulation" (.one .boolean),
        .optional "is_user_verified" "isUserVerified" (.one .boolean) ],
    .record "Credential"
      [ .required "credential_id" "credentialId" (.one .text),
        .required "is_resident_credential" "isResidentCredential" (.one .boolean),
        .required "private_key" "privateKey" (.one .text),
        .required "sign_count" "signCount" (.one .integer),
        .optional "rp_id" "rpId" (.one .text),
        .optional "user_handle" "userHandle" (.one .text),
        .optional "large_blob" "largeBlob" (.one .text) ] ]

def commands : List Command :=
  [ { name := "enable", method := "WebAuthn.enable",
      parameters := [],
      returns := [] },
    { name := "disable", method := "WebAuthn.disable",
      parameters := [],
      returns := [] },
    { name := "add_virtual_authenticator", method := "WebAuthn.addVirtualAuthenticator",
      parameters :=
        [ .required "options" "options" (.one (.ref "web_authn" "VirtualAuthenticatorOptions")) ],
      returns :=
        [ .required "authenticatorId" (.one (.ref "web_authn" "AuthenticatorId")) ] },
    { name := "remove_virtual_authenticator", method := "WebAuthn.removeVirtualAuthenticator",
      parameters :=
        [ .required "authenticator_id" "authenticatorId"
            (.one (.ref "web_authn" "AuthenticatorId")) ],
      returns := [] },
    { name := "add_credential", method := "WebAuthn.addCredential",
      parameters :=
        [ .required "authenticator_id" "authenticatorId"
            (.one (.ref "web_authn" "AuthenticatorId")),
          .required "credential" "credential" (.one (.ref "web_authn" "Credential")) ],
      returns := [] },
    { name := "get_credential", method := "WebAuthn.getCredential",
      parameters :=
        [ .required "authenticator_id" "authenticatorId"
            (.one (.ref "web_authn" "AuthenticatorId")),
          .required "credential_id" "credentialId" (.one .text) ],
      returns :=
        [ .required "credential" (.one (.ref "web_authn" "Credential")) ] },
    { name := "get_credentials", method := "WebAuthn.getCredentials",
      parameters :=
        [ .required "authenticator_id" "authenticatorId"
            (.one (.ref "web_authn" "AuthenticatorId")) ],
      returns :=
        [ .required "credentials" (.many (.ref "web_authn" "Credential")) ] },
    { name := "remove_credential", method := "WebAuthn.removeCredential",
      parameters :=
        [ .required "authenticator_id" "authenticatorId"
            (.one (.ref "web_authn" "AuthenticatorId")),
          .required "credential_id" "credentialId" (.one .text) ],
      returns := [] },
    { name := "clear_credentials", method := "WebAuthn.clearCredentials",
      parameters :=
        [ .required "authenticator_id" "authenticatorId"
            (.one (.ref "web_authn" "AuthenticatorId")) ],
      returns := [] },
    { name := "set_user_verified", method := "WebAuthn.setUserVerified",
      parameters :=
        [ .required "authenticator_id" "authenticatorId"
            (.one (.ref "web_authn" "AuthenticatorId")),
          .required "is_user_verified" "isUserVerified" (.one .boolean) ],
      returns := [] },
    { name := "set_automatic_presence_simulation",
      method := "WebAuthn.setAutomaticPresenceSimulation",
      parameters :=
        [ .required "authenticator_id" "authenticatorId"
            (.one (.ref "web_authn" "AuthenticatorId")),
          .required "enabled" "enabled" (.one .boolean) ],
      returns := [] } ]

def events : List Event := []

def domain : DevTools.Domain where
  name := "WebAuthn"
  scope := "web_authn"
  types := types
  commands := commands
  events := events

end DevTools.Domain.WebAuthn
