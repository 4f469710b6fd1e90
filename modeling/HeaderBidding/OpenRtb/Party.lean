import HeaderBidding.Codec.Words

/-!
# Who takes part in an auction

The page or the app with its publisher, the device and its user, and where the request comes from.
-/

namespace HeaderBidding.OpenRtb

/-- Who publishes a page or an app. -/
structure Publisher where
  id : Option String := none
  name : Option String := none
  domain : Option String := none
  deriving DecidableEq

/-- A web site. -/
structure Site where
  id : Option String := none
  name : Option String := none
  domain : Option String := none
  page : Option String := none
  publisher : Option Publisher := none
  ext : Option Json := none
  deriving BEq

/-- An app. -/
structure App where
  id : Option String := none
  name : Option String := none
  bundle : Option String := none
  storeurl : Option String := none
  ver : Option String := none
  publisher : Option Publisher := none
  ext : Option Json := none
  deriving BEq

/-- The device on which the ad is shown. -/
structure Device where
  ua : Option String := none
  ip : Option String := none
  ifa : Option String := none
  os : Option String := none
  osv : Option String := none
  devicetype : Option Int32 := none
  lmt : Option Int32 := none
  ext : Option Json := none
  deriving BEq

/-- Who sees the ad. -/
structure User where
  id : Option String := none
  buyeruid : Option String := none
  ext : Option Json := none
  deriving BEq

/-- Where a request comes from. -/
structure Source where
  fd : Option Int32 := none
  tid : Option String := none
  deriving DecidableEq

/-- The regulations that hold for a request. -/
structure Regs where
  coppa : Option Int32 := none
  ext : Option Json := none
  deriving BEq

/-- Publishers in documents. -/
def Publisher.codec : Codec Publisher :=
  .record "Publisher"
    (.optional "id" .text <|
     .optional "name" .text <|
     .optional "domain" .text
     .nil)
    { make := fun (id, name, domain, ()) => { id, name, domain }
      parts := fun a => (a.id, a.name, a.domain, ())
      make_parts := fun _ => rfl }

/-- Sites in documents. -/
def Site.codec : Codec Site :=
  .record "Site"
    (.optional "id" .text <|
     .optional "name" .text <|
     .optional "domain" .text <|
     .optional "page" .text <|
     .optional "publisher" Publisher.codec <|
     .optional "ext" .free
     .nil)
    { make := fun (id, name, domain, page, publisher, ext, ()) =>
        { id, name, domain, page, publisher, ext }
      parts := fun a => (a.id, a.name, a.domain, a.page, a.publisher, a.ext, ())
      make_parts := fun _ => rfl }

/-- Apps in documents. -/
def App.codec : Codec App :=
  .record "App"
    (.optional "id" .text <|
     .optional "name" .text <|
     .optional "bundle" .text <|
     .optional "storeurl" .text <|
     .optional "ver" .text <|
     .optional "publisher" Publisher.codec <|
     .optional "ext" .free
     .nil)
    { make := fun (id, name, bundle, storeurl, ver, publisher, ext, ()) =>
        { id, name, bundle, storeurl, ver, publisher, ext }
      parts := fun a => (a.id, a.name, a.bundle, a.storeurl, a.ver, a.publisher, a.ext, ())
      make_parts := fun _ => rfl }

/-- Devices in documents. -/
def Device.codec : Codec Device :=
  .record "Device"
    (.optional "ua" .text <|
     .optional "ip" .text <|
     .optional "ifa" .text <|
     .optional "os" .text <|
     .optional "osv" .text <|
     .optional "devicetype" (.word .int32) <|
     .optional "lmt" (.word .int32) <|
     .optional "ext" .free
     .nil)
    { make := fun (ua, ip, ifa, os, osv, devicetype, lmt, ext, ()) =>
        { ua, ip, ifa, os, osv, devicetype, lmt, ext }
      parts := fun a => (a.ua, a.ip, a.ifa, a.os, a.osv, a.devicetype, a.lmt, a.ext, ())
      make_parts := fun _ => rfl }

/-- Users in documents. -/
def User.codec : Codec User :=
  .record "User"
    (.optional "id" .text <|
     .optional "buyeruid" .text <|
     .optional "ext" .free
     .nil)
    { make := fun (id, buyeruid, ext, ()) => { id, buyeruid, ext }
      parts := fun a => (a.id, a.buyeruid, a.ext, ())
      make_parts := fun _ => rfl }

/-- Sources in documents. -/
def Source.codec : Codec Source :=
  .record "Source"
    (.optional "fd" (.word .int32) <|
     .optional "tid" .text
     .nil)
    { make := fun (fd, tid, ()) => { fd, tid }
      parts := fun a => (a.fd, a.tid, ())
      make_parts := fun _ => rfl }

/-- Regulations in documents. -/
def Regs.codec : Codec Regs :=
  .record "Regs"
    (.optional "coppa" (.word .int32) <|
     .optional "ext" .free
     .nil)
    { make := fun (coppa, ext, ()) => { coppa, ext }
      parts := fun a => (a.coppa, a.ext, ())
      make_parts := fun _ => rfl }

end HeaderBidding.OpenRtb
