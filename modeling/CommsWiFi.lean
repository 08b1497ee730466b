import CommsWiFi.Basic
import CommsWiFi.Address
import CommsWiFi.AccessPoint
import CommsWiFi.EventHandler
import CommsWiFi.Station.Model
import CommsWiFi.Station.Slot
import CommsWiFi.Station.Body
import CommsWiFi.Station.Statistics
import CommsWiFi.Station.Dispatch
import CommsWiFi.Station.Sockets
import CommsWiFi.Station.Protocol
import CommsWiFi.Station.Metering
import CommsWiFi.Station.Frames
import CommsWiFi.Station.Addresses
import CommsWiFi.Station.Independence
import CommsWiFi.Queue
import CommsWiFi.AccessPointTask
import CommsWiFi.Station.Pipeline
import CommsWiFi.Init
