import AppStream.Kinds
import AppStream.Decimal
import AppStream.Calendar
import AppStream.DateTime
import AppStream.Release
import AppStream.DateReconciler
import AppStream.Xml
import AppStream.XmlLoad
import AppStream.XmlEmit
import AppStream.XmlRoundTrip
import AppStream.Yaml
import AppStream.YamlLoad
import AppStream.YamlEmit
import AppStream.Operations
import AppStream.LoadOrder
import AppStream.Conversion
